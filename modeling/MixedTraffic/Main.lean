import MixedTraffic.Program.Transcript

namespace MixedTraffic

/-! The program takes a configuration file and an output directory. Without a file it runs
the default sweep. -/

def readText? (path : String) : IO (Option String) := do
  try return some (← IO.FS.readFile path) catch _ => return none

def writeText (directory name : String) : Option String → IO Unit
  | none => return ()
  | some text => IO.FS.writeFile (directory ++ "/" ++ name) text

def elapsedText (milliseconds : Nat) : String :=
  " in " ++ Decimal.fixed 1 (Float.ofNat milliseconds / 1000) ++ " s"

def runProgram (arguments : List String) : IO UInt32 := do
  let directory := arguments[1]?.getD "output/triangle"
  let before ← IO.monoMsNow
  let transcript ← match arguments.head? with
    | none => pure (Transcript.ofConfig {})
    | some path => do
        let text ← readText? path
        pure (Transcript.ofFile path text)
  if transcript.diagram.isSome then IO.FS.createDirAll directory
  writeText directory "data.txt" transcript.diagram
  writeText directory "points.json" transcript.points
  let after ← IO.monoMsNow
  for line in transcript.lines (elapsedText (after - before)) do
    IO.println line
  match transcript.failure with
  | none => return 0
  | some message =>
      IO.eprintln (Transcript.failureLine message)
      return 1

end MixedTraffic

def main (arguments : List String) : IO UInt32 := MixedTraffic.runProgram arguments

import MixedTraffic.Program.Message
import MixedTraffic.Program.PointFile
import MixedTraffic.Sweep.Json
import MixedTraffic.Sweep.Sweep

namespace MixedTraffic

/-! The program takes the settings of a sweep from a file, runs the sweep and writes down
the diagram. What it prints and writes is worked out here, before anything is printed. -/

structure Transcript where
  /-- The lines printed before the sweep. -/
  opening : List String := []
  /-- The lines printed after a sweep that ended well, behind the one that says so. -/
  closing : Option (List String) := none
  /-- The table of valid points, if it was begun. -/
  diagram : Option String := none
  /-- All points, if the sweep ended well. -/
  points : Option String := none
  failure : Option String := none

namespace Transcript

def padLeft (width : Nat) (text : String) : String :=
  String.ofList (List.replicate (width - text.length) ' ') ++ text

def padRight (width : Nat) (text : String) : String :=
  text ++ String.ofList (List.replicate (width - text.length) ' ')

/-- The lines printed, `elapsed` being said of the sweep that ended well. -/
def lines (transcript : Transcript) (elapsed : String) : List String :=
  transcript.opening ++
    transcript.closing.elim [] fun closing => ("Sweep complete" ++ elapsed) :: closing

def exitCode (transcript : Transcript) : Nat := if transcript.failure.isSome then 1 else 0

def failureLine (message : String) : String := "Error: " ++ message

def sourceName : PointSource → String
  | .modalSplit => "ModalSplit"
  | .distribution => "Distribution"

def openingLines (config : SweepConfig Float) : List String :=
  let modes := ", ".intercalate config.modes
  let split := ", ".intercalate (config.split.map (Decimal.text .listed))
  let track := config.track
  let length := amountText track.branchLength
  let lanes := amountText track.lanes
  let capacity := amountText track.flowCapacity
  let held := Decimal.fixed 0 config.pcuCapacity
  let run := config.run
  ["=== triangle: fundamental diagram sweep ===",
    s!"Modes: {modes}  |  split (PCU): [{split}]  |  points: {sourceName config.points}",
    s!"Track: 3 × {length} m, {lanes} lane(s), {capacity} PCU/h  |  ring holds {held} PCU",
    s!"Each point: at most {run.endTick} ticks of {run.tickSecs} s from {run.clock.label}",
    ""]

def modeLines (sweep : Sweep Float) : List String :=
  let counts := sweep.flowUnstable.toList.zip sweep.speedUnstable.toList
  (sweep.config.modes.zip counts).zipIdx.map fun ((name, flow, speed), i) =>
    s!"  mode {i} {padRight 10 name}: {flow} flow-unstable, {speed} speed-unstable"

def rowLine (row : DiagramRow Float) : String :=
  " ".intercalate (padLeft 8 (toString row.agents) ::
    [row.density, row.flow, row.speedKmh].map fun x => padLeft 10 (Decimal.fixed 2 x))

def columnLine : String :=
  " ".intercalate (padLeft 8 "agents" ::
    ["k [1/km]", "q [1/h]", "v [km/h]"].map (padLeft 10))

def closingLines (progress : SweepProgress Float) : List String :=
  let points := progress.points.toList
  let rows := points.filterMap (·.row?)
  let written := progress.diagram.elim 0 (·.rows.size)
  [s!"  points run   : {points.length}", s!"  data.txt     : {written} valid rows"] ++
    modeLines progress.sweep ++
    ["", columnLine, String.ofList (List.replicate 41 '-')] ++ rows.map rowLine

def ofConfig (config : SweepConfig Float) : Transcript :=
  match Sweep.new config with
  | .error cause => { failure := some cause.message }
  | .ok sweep =>
      let opening := openingLines config
      match sweep.run (some sweep.newDiagram) with
      | .ok progress =>
          { opening
            closing := some (closingLines progress)
            diagram := progress.diagram.map (·.text)
            points := some (pointFile progress.points.toList) }
      | .error ⟨cause, progress⟩ =>
          { opening
            diagram := progress.diagram.map (·.text)
            failure := some cause.message }

/-- Runs the sweep of a configuration file, of which there is no text if it does not
exist. -/
def ofFile (path : String) (text : Option String) : Transcript :=
  match text with
  | none => { failure := some ("opening " ++ path) }
  | some text =>
      match (Json.parse? text).bind SweepConfig.ofJson? with
      | none => { failure := some ("parsing " ++ path) }
      | some config => ofConfig config

end Transcript

end MixedTraffic

import MixedTraffic.Output.Rows
import MixedTraffic.Run.Observer
import MixedTraffic.Setup.RunConfig

namespace MixedTraffic

/-! An observer that writes a run down. The events of an interval are written together when
it ends. Only the first error is kept; writing goes on after it. -/

structure Recorder (τ : Type) where
  sink : Sink τ
  written : τ
  clock : Clock
  /-- The events of the current interval, last first. -/
  pending : List EventRow := []
  error : Option OutputError := none

namespace Recorder

variable {τ : Type}

def new (sink : Sink τ) (written : τ) (config : RunConfig) : Recorder τ :=
  { sink, written, clock := config.clock }

def takeError (recorder : Recorder τ) : Option OutputError × Recorder τ :=
  (recorder.error, { recorder with error := none })

def write (recorder : Recorder τ) (writing : τ → Option OutputError × τ) : Recorder τ :=
  let (error, written) := writing recorder.written
  { recorder with written, error := recorder.error <|> error }

def hear (event : Event) (recorder : Recorder τ) : Recorder τ :=
  { recorder with
    pending :=
      { tick := event.time
        timeSecs := recorder.clock.secsAt event.time
        kind := event.kind.label
        agent := event.agent.index
        link := event.link.index } :: recorder.pending }

def flowRow (bin : FlowBin Float) (mode : Nat) (sample : FlowSample Float) : FlowRow where
  tick := bin.tick
  mode := mode
  agents := sample.agents
  density := sample.density
  flow := sample.flow
  speedKmh := sample.meanSpeedKmh
  permanent := bin.permanent

/-- Writes the sample of all modes, then that of each. -/
def closeBin (bin : FlowBin Float) (recorder : Recorder τ) : Recorder τ :=
  recorder.write <| recorder.sink.flow <|
    flowRow bin FlowRow.allModes bin.total ::
      bin.modes.map fun (mode, sample) => flowRow bin mode.index sample

def flushEvents (recorder : Recorder τ) : Recorder τ :=
  if recorder.pending.isEmpty then recorder
  else
    let rows := recorder.pending.reverse
    { recorder with pending := [] }.write (recorder.sink.events rows)

def endInterval (summary : IntervalSummary) (recorder : Recorder τ) : Recorder τ :=
  let recorder := recorder.flushEvents
  recorder.write <| recorder.sink.interval
    { tick := summary.tick
      timeSecs := recorder.clock.secsAt summary.tick
      onNetwork := summary.onNetwork
      departed := summary.departed
      arrived := summary.arrived
      stuck := summary.stuck
      rejections := summary.rejections }

def linkRow (tick : Tick) (queue : LinkQueue Float) : LinkRow where
  tick := tick
  link := queue.link.index
  vehicles := queue.vehicles.length
  occupied := queue.occupied + queue.seepOccupied
  storage := queue.storage
  discharged := queue.discharged
  flowBudget := queue.flowBudget

def snapshot (tick : Tick) (roads : Roads Float) (recorder : Recorder τ) : Recorder τ :=
  let rows := roads.queues.toList.map (linkRow tick)
  if rows.isEmpty then recorder else recorder.write (recorder.sink.links rows)

def observer : Observer Float (Recorder τ) where
  hear := hear
  closeBin := closeBin
  endInterval summary _ recorder := endInterval summary recorder
  snapshot tick roads _ recorder := snapshot tick roads recorder
  endRun _ recorder := recorder.write recorder.sink.finish

end Recorder

end MixedTraffic

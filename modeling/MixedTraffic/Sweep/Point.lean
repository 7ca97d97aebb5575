import MixedTraffic.Flow.Overtakes
import MixedTraffic.Output.DiagramTable
import MixedTraffic.Run.Sim
import MixedTraffic.Sweep.Config
import MixedTraffic.Sweep.Mix

namespace MixedTraffic

/-! One point of the diagram: a run of circling drivers on the test track, and whether it
reached a state that the diagram may show. -/

structure Assessment (α : Type) where
  flowUnstable : List ModeId
  speedUnstable : List ModeId
  permanent : Bool
  permanentDensity : Option α
  tooDense : Bool

namespace Assessment

variable {α : Type} [Quantity α]

/-- Judges a finished run. A density above `limit` comes from vehicles that queue off the
measured road. -/
def ofTracker (tracker : FlowTracker α) (limit : α) : Assessment α :=
  let density := tracker.total.frozen.map (·.density)
  { flowUnstable := tracker.trackedModes.filter (!tracker.isFlowStable ·)
    speedUnstable := tracker.trackedModes.filter (!tracker.isSpeedStable ·)
    permanent := tracker.permanent
    permanentDensity := density
    tooDense := density.any fun k => decide (limit < k) }

def isValid (assessment : Assessment α) : Bool :=
  assessment.flowUnstable.isEmpty && assessment.speedUnstable.isEmpty &&
    assessment.permanent && !assessment.tooDense

end Assessment

structure DiagramPoint (α : Type) where
  agents : List Nat
  summary : RunSummary
  assessment : Assessment α
  total : Option (FlowSample α)
  modes : List (Option (FlowSample α))
  overtakesPerKm : α
  /-- The overtakes of the second mode by the first. -/
  pairOvertakesPerKm : Option α
  averageRate : α

namespace DiagramPoint

variable {α : Type} [Quantity α]

def isValid (point : DiagramPoint α) : Bool :=
  point.assessment.isValid && point.total.isSome && point.modes.all (·.isSome)

def row? (point : DiagramPoint α) : Option (DiagramRow α) := do
  let total ← point.total
  let modes ← point.modes.mapM id
  if !point.isValid then none
  else some {
    agents := point.agents.foldl (· + ·) 0
    modeAgents := point.agents
    density := total.density
    modeDensity := modes.map (·.density)
    flow := total.flow
    modeFlow := modes.map (·.flow)
    speedKmh := total.meanSpeedKmh
    modeSpeedKmh := modes.map (·.meanSpeedKmh)
    overtakesPerKm := point.overtakesPerKm
    pairOvertakesPerKm := point.pairOvertakesPerKm
    averageRate := point.averageRate }

end DiagramPoint

/-- Why a sweep could not be set up or was abandoned. A point that is not valid is no
error. -/
inductive SweepError (α : Type) where
  | config (cause : ConfigError α)
  | network (cause : NetworkError α)
  | agent (cause : AgentError)
  | run (cause : RunError α)
  | output (cause : OutputError)

namespace TestTrack

variable {α : Type} [Quantity α]

def build (config : TrackConfig α) : Except (SweepError α) (TestTrack α) := do
  config.check.mapError .config
  let network ← (draft config).build.mapError .network
  return { config, network, ring := ringOf config.subdivision }

end TestTrack

end MixedTraffic

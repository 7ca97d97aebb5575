import MixedTraffic.Sweep.Point

namespace MixedTraffic

/-! A sweep runs one simulation for each point and counts by mode how many points were
unstable. -/

structure Sweep (α : Type) [Quantity α] where
  config : SweepConfig α
  table : ModeTable α
  track : TestTrack α
  /-- For each mode, the points in which its flow never became stable. -/
  flowUnstable : Array Nat
  speedUnstable : Array Nat

structure SweepProgress (α : Type) [Quantity α] where
  sweep : Sweep α
  points : Array (DiagramPoint α) := #[]
  diagram : Option (DiagramTable α)

namespace Sweep

variable {α : Type} [Quantity α]

def new (config : SweepConfig α) : Except (SweepError α) (Sweep α) := do
  config.check.mapError .config
  let table ← config.table.mapError .config
  (config.dynamics.check table).mapError .config
  let track ← TestTrack.build config.track
  return {
    config
    table
    track
    flowUnstable := Array.replicate table.size 0
    speedUnstable := Array.replicate table.size 0 }

/-- The first two modes, whose overtakes have a column of their own. -/
def pair? (sweep : Sweep α) : Option (ModeId × ModeId) :=
  if 2 ≤ sweep.table.size then some (⟨0⟩, ⟨1⟩) else none

def newDiagram (sweep : Sweep α) : DiagramTable α where
  modes := sweep.config.modes
  pair := match sweep.config.modes with
    | first :: second :: _ => some (first, second)
    | _ => none

/-- The agents by mode of every point, in the order of the runs. -/
def points (sweep : Sweep α) : List (List Nat) :=
  let config := sweep.config
  let pcu := sweep.table.types.toList.map (·.pcu)
  match config.points with
  | .modalSplit =>
      Mix.multiples (Mix.steps pcu config.split config.reduce) pcu config.pcuCapacity
  | .distribution => Mix.grid pcu config.pcuCapacity config.reduce

def addAgents (sweep : Sweep α) (mode : ModeId) :
    Nat → PopulationDraft → PopulationDraft
  | 0, draft => draft
  | count + 1, draft =>
      sweep.addAgents mode count <|
        draft.addJittered mode sweep.config.run.startSecs sweep.config.departureWindow
          (.circling sweep.track.ring)

def population (sweep : Sweep α) (agents : List Nat) : Except AgentError Population :=
  let draft := agents.zipIdx.foldl
    (fun draft (count, mode) => sweep.addAgents ⟨mode⟩ count draft)
    { seed := sweep.config.run.seed : PopulationDraft }
  draft.build sweep.table

def trackerConfig (sweep : Sweep α) : TrackerConfig α :=
  { sweep.config.tracker with
    referenceLink := TestTrack.referenceLink
    measuredLength :=
      some (sweep.config.tracker.measuredLength.getD sweep.config.track.ringLength) }

/-- The run of a point. It ends early when the track is empty again. -/
def setup (sweep : Sweep α) (population : Population) :
    SimSetup α (OvertakeCounter α) where
  config := sweep.config.run
  network := sweep.track.network
  table := sweep.table
  population := population
  dynamics := sweep.config.dynamics
  tracker := some sweep.trackerConfig
  bus := {
    listeners := [{ hear := OvertakeCounter.hear }]
    memory := OvertakeCounter.new sweep.track.network sweep.table.size population.modes
      (some sweep.config.track.ringLength) }
  stopRule := some .networkEmpty

/-- The passenger-car units per kilometre above which a point is rejected: a jam and a
little more. -/
def densityLimit (sweep : Sweep α) : α :=
  sweep.config.track.jamDensity sweep.config.dynamics.cell + ((10 : Nat) : α)

def pointOf (sweep : Sweep α) (agents : List Nat) (summary : RunSummary)
    (tracker : FlowTracker α) (overtakes : OvertakeCounter α) : DiagramPoint α where
  agents := agents
  summary := summary
  assessment := .ofTracker tracker sweep.densityLimit
  total := tracker.total.frozen
  modes := sweep.table.modes.map tracker.frozenSample?
  overtakesPerKm := overtakes.perKm
  pairOvertakesPerKm := sweep.pair?.map fun (first, second) =>
    overtakes.pairPerKm first second
  averageRate := overtakes.averageRate

def count (sweep : Sweep α) (assessment : Assessment α) : Sweep α :=
  let increase (counts : Array Nat) (mode : ModeId) : Array Nat :=
    counts.modify mode.index (· + 1)
  { sweep with
    flowUnstable := assessment.flowUnstable.foldl increase sweep.flowUnstable
    speedUnstable := assessment.speedUnstable.foldl increase sweep.speedUnstable }

def runPoint (sweep : Sweep α) (agents : List Nat) :
    Except (SweepError α) (DiagramPoint α × Sweep α) := do
  (ConfigError.require (agents.length == sweep.table.size)
    (.agentCountMismatch agents.length sweep.table.size)).mapError .config
  let population ← (sweep.population agents).mapError .agent
  let sim ← (sweep.setup population).build.mapError .run
  let (summary, sim) ← (sim.run {}).mapError (.run ·.cause)
  match sim.tracker with
  | none => .error (.config (.inconsistent .trackerMissing))
  | some tracker =>
      let point := sweep.pointOf agents summary tracker sim.bus.memory
      return (point, sweep.count point.assessment)

/-- Runs one more point, and adds it to the table if it is valid. -/
def advance (progress : SweepProgress α) (agents : List Nat) :
    Except (Interrupted (SweepError α) (SweepProgress α)) (SweepProgress α) := do
  let stop (cause : SweepError α) : Interrupted (SweepError α) (SweepProgress α) :=
    ⟨cause, progress⟩
  let (point, sweep) ← (progress.sweep.runPoint agents).mapError stop
  let progress := { progress with sweep }
  let diagram ← match progress.diagram, point.row? with
    | some diagram, some row =>
        match diagram.add row with
        | .ok diagram => pure (some diagram)
        | .error cause => .error ⟨.output cause, progress⟩
    | diagram, _ => pure diagram
  return { progress with points := progress.points.push point, diagram }

/-- Runs every point. The first failure ends the sweep. -/
def run (sweep : Sweep α) (diagram : Option (DiagramTable α)) :
    Except (Interrupted (SweepError α) (SweepProgress α)) (SweepProgress α) :=
  sweep.points.foldlM advance { sweep, diagram }

end Sweep

end MixedTraffic

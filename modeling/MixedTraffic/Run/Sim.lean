import MixedTraffic.Event.Bus
import MixedTraffic.Event.Log
import MixedTraffic.Run.Interval
import MixedTraffic.Run.Observer
import MixedTraffic.Setup.RunConfig

namespace MixedTraffic

/-! A run: traffic interval by interval, and all who watch it. -/

structure Sim (α σ : Type) [Quantity α] where
  config : RunConfig
  world : World α
  tracker : Option (FlowTracker α)
  log : Option EventLog
  bus : Bus σ
  stopRule : Option (StopRule α σ)
  isCancelled : σ → Bool
  /-- Whether flow was permanent at the end of the last interval. -/
  flowPermanent : Bool := false
  totals : RunSummary := {}

structure SimSetup (α σ : Type) [Quantity α] where
  config : RunConfig
  network : Network α
  table : ModeTable α
  population : Population
  dynamics : Dynamics α := {}
  tracker : Option (TrackerConfig α) := none
  changes : List (NetworkChange α) := []
  keepEvents : Bool := false
  bus : Bus σ
  stopRule : Option (StopRule α σ) := none
  isCancelled : σ → Bool := fun _ => false

namespace SimSetup

variable {α σ : Type} [Quantity α]

/-- Changes by time, those of one time in the order given. -/
def sortChanges (changes : List (NetworkChange α)) : List (NetworkChange α) :=
  changes.mergeSort fun a b => decide (a.atSecs ≤ b.atSecs)

def build (setup : SimSetup α σ) : Except (RunError α) (Sim α σ) := do
  let tickSecs := setup.config.tickSecs
  setup.config.check.mapError .config
  (setup.changes.forM (·.check setup.network)).mapError .network
  let roads ← (Roads.ofNetwork setup.network setup.dynamics setup.table tickSecs).mapError
    .road
  let tracker ← setup.tracker.mapM fun config =>
    (FlowTracker.new setup.network setup.table setup.population.modes config
      tickSecs).mapError .config
  let clock := setup.config.clock
  return {
    config := setup.config
    world := {
      clock
      network := setup.network
      table := setup.table
      population := setup.population
      roads
      departures := .ofPopulation setup.population clock
      changes := sortChanges setup.changes }
    tracker
    log := if setup.keepEvents then some {} else none
    bus := setup.bus
    stopRule := setup.stopRule
    isCancelled := setup.isCancelled }

end SimSetup

namespace Sim

variable {α σ : Type} [Quantity α]

def now (sim : Sim α σ) : Tick := sim.world.clock.now

def summary (sim : Sim α σ) : RunSummary := { sim.totals with finalTick := sim.now }

def note (sim : Sim α σ) (write : σ → σ) : Sim α σ := { sim with bus := sim.bus.note write }

def dispatch (sim : Sim α σ) (observer : Observer α σ) (events : Array Event) : Sim α σ :=
  { sim with
    tracker := sim.tracker.map fun tracker => events.foldl FlowTracker.record tracker
    bus := events.foldl
      (fun bus event => (bus.emit event).note (observer.hear event)) sim.bus
    log := sim.log.map (·.append events) }

def closeInterval (sim : Sim α σ) (observer : Observer α σ) (tick : Tick) : Sim α σ :=
  let bus := sim.bus.endInterval tick
  match sim.tracker with
  | none => { sim with bus }
  | some tracker =>
      let (bin, tracker) := tracker.closeInterval tick
      { sim with
        bus := bin.elim bus fun bin => bus.note (observer.closeBin bin)
        tracker := some tracker
        flowPermanent := tracker.permanent }

def report (sim : Sim α σ) (observer : Observer α σ) (summary : IntervalSummary) :
    Sim α σ :=
  let sim := sim.note (observer.endInterval summary sim.world.roads)
  let every := sim.config.outputEvery
  if every ≠ 0 ∧ summary.tick % every = 0 then
    sim.note (observer.snapshot summary.tick sim.world.roads sim.world.population)
  else sim

def shouldStop (sim : Sim α σ) (summary : IntervalSummary) : Bool × Sim α σ :=
  match sim.stopRule with
  | none => (false, sim)
  | some rule =>
      let (stop, memory) := rule
        { tick := summary.tick
          summary
          population := sim.world.population
          roads := sim.world.roads
          tracker := sim.tracker
          pending := sim.world.departures.size }
        sim.bus.memory
      (stop, sim.note fun _ => memory)

/-- Simulates one interval and advances the clock. The answer says whether the stop rule
holds. A run that fails stays in the interval, of which the observer has been told that it
began, and keeps what has been done in it. -/
def step (observer : Observer α σ) (sim : Sim α σ) :
    Except (Interrupted (RunError α) (Sim α σ)) (Bool × Sim α σ) := do
  let sim := sim.note (observer.startTick sim.now)
  let interval ← (sim.world.interval sim.flowPermanent).mapError
    (·.within id fun world => { sim with world })
  let summary := interval.summary
  let sim := { sim with world := interval.world }
  let sim := sim.dispatch observer interval.events
  let sim := sim.closeInterval observer summary.tick
  let sim := { sim with totals := sim.totals.add summary }
  let sim := sim.report observer summary
  let (stop, sim) := sim.shouldStop summary
  return (stop, { sim with
    world := { sim.world with clock := sim.world.clock.advance } })

/-- Simulates so many intervals, whatever the end time, the stop rule and a wish to cancel
say. -/
def runTicks (observer : Observer α σ) (sim : Sim α σ) :
    Nat → Except (Interrupted (RunError α) (Sim α σ)) (Sim α σ)
  | 0 => .ok sim
  | count + 1 => do
      let (_, sim) ← sim.step observer
      sim.runTicks observer count

/-- Simulates at most `count` intervals, until the stop rule holds or the run is cancelled. -/
def runUntil (observer : Observer α σ) (sim : Sim α σ) :
    Nat → Except (Interrupted (RunError α) (Sim α σ)) (Sim α σ)
  | 0 => .ok sim
  | count + 1 =>
      if sim.isCancelled sim.bus.memory then
        .ok { sim with totals := { sim.totals with cancelled := true } }
      else do
        let (stop, sim) ← sim.step observer
        if stop then
          return { sim with totals := { sim.totals with terminatedEarly := true } }
        else sim.runUntil observer count

/-- Runs from the current interval to the end time, unless stopped before it. -/
def run (observer : Observer α σ) (sim : Sim α σ) :
    Except (Interrupted (RunError α) (Sim α σ)) (RunSummary × Sim α σ) := do
  let sim ← sim.runUntil observer (sim.config.endTick - sim.now)
  return (sim.summary, sim.note (observer.endRun sim.summary))

end Sim

end MixedTraffic

import MixedTraffic.Flow.Tracker
import MixedTraffic.Road.Roads
import MixedTraffic.Run.Summary

namespace MixedTraffic

/-! Who follows a run from outside. What an observer notes lies in the memory that it
shares with the listeners of the bus. -/

structure Observer (α σ : Type) [Quantity α] where
  startTick : Tick → σ → σ := fun _ memory => memory
  /-- Called for each event after the listeners of the bus. -/
  hear : Event → σ → σ := fun _ memory => memory
  closeBin : FlowBin α → σ → σ := fun _ memory => memory
  endInterval : IntervalSummary → Roads α → σ → σ := fun _ _ memory => memory
  snapshot : Tick → Roads α → Population → σ → σ := fun _ _ _ memory => memory
  /-- Called once after the last interval, also of a run that was stopped. -/
  endRun : RunSummary → σ → σ := fun _ memory => memory

namespace Observer

variable {α σ τ : Type} [Quantity α]

def within (read : σ → τ) (write : τ → σ → σ) (observer : Observer α τ) : Observer α σ :=
  let lift (change : τ → τ) (memory : σ) : σ := write (change (read memory)) memory
  { startTick := fun tick => lift (observer.startTick tick)
    hear := fun event => lift (observer.hear event)
    closeBin := fun bin => lift (observer.closeBin bin)
    endInterval := fun summary roads => lift (observer.endInterval summary roads)
    snapshot := fun tick roads population => lift (observer.snapshot tick roads population)
    endRun := fun summary => lift (observer.endRun summary) }

/-- Two observers, the first of which is told first. -/
def both (first second : Observer α σ) : Observer α σ where
  startTick tick memory := second.startTick tick (first.startTick tick memory)
  hear event memory := second.hear event (first.hear event memory)
  closeBin bin memory := second.closeBin bin (first.closeBin bin memory)
  endInterval summary roads memory :=
    second.endInterval summary roads (first.endInterval summary roads memory)
  snapshot tick roads population memory :=
    second.snapshot tick roads population (first.snapshot tick roads population memory)
  endRun summary memory := second.endRun summary (first.endRun summary memory)

end Observer

/-- What a decision to stop early may look at. -/
structure StopContext (α : Type) [Quantity α] where
  tick : Tick
  summary : IntervalSummary
  population : Population
  roads : Roads α
  tracker : Option (FlowTracker α)
  /-- The agents still to depart, those that try again included. -/
  pending : Nat

/-- Decides after each interval whether to stop. It may use the shared memory. -/
abbrev StopRule (α σ : Type) [Quantity α] := StopContext α → σ → Bool × σ

namespace StopRule

variable {α σ : Type} [Quantity α]

def ofContext (holds : StopContext α → Bool) : StopRule α σ :=
  fun context memory => (holds context, memory)

def flowPermanent : StopRule α σ := ofContext fun context =>
  context.tracker.any (·.permanent)

def networkEmpty : StopRule α σ := ofContext fun context =>
  context.pending == 0 && context.roads.size == 0 &&
    context.population.finished == context.population.size

end StopRule

end MixedTraffic

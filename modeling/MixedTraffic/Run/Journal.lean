import MixedTraffic.Run.Observer

namespace MixedTraffic

/-- Everything that an observer is told of a run, the last first. -/
structure Journal (α : Type) [Quantity α] where
  /-- The intervals that were begun. One that failed was never reported. -/
  begun : List Tick := []
  events : List Event := []
  bins : List (FlowBin α) := []
  intervals : List IntervalSummary := []
  /-- The interval, the number of trips that were over, and the queues. -/
  snapshots : List (Tick × Nat × Array (LinkQueue α)) := []
  ended : Option RunSummary := none

namespace Journal

variable {α : Type} [Quantity α]

def observer : Observer α (Journal α) where
  startTick tick journal := { journal with begun := tick :: journal.begun }
  hear event journal := { journal with events := event :: journal.events }
  closeBin bin journal := { journal with bins := bin :: journal.bins }
  endInterval summary _ journal :=
    { journal with intervals := summary :: journal.intervals }
  snapshot tick roads population journal :=
    { journal with
      snapshots := (tick, population.finished, roads.queues) :: journal.snapshots }
  endRun summary journal := { journal with ended := some summary }

end Journal

end MixedTraffic

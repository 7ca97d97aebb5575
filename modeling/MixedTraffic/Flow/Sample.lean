import MixedTraffic.Clock
import MixedTraffic.Key

namespace MixedTraffic

structure FlowSample (α : Type) where
  /-- The vehicles on the network at the end of the bin. -/
  agents : Nat
  /-- Passenger-car units per measured kilometre. -/
  density : α
  /-- Passenger-car units that enter the reference link in an hour. -/
  flow : α
  /-- Metres per second over the traversals that were completed. -/
  meanSpeed : α

def FlowSample.meanSpeedKmh {α : Type} [Quantity α] (sample : FlowSample α) : α :=
  sample.meanSpeed * Quantity.fraction 36 10

structure FlowBin (α : Type) where
  /-- The last interval of the bin. -/
  tick : Tick
  total : FlowSample α
  /-- The tracked modes in ascending order. -/
  modes : List (ModeId × FlowSample α)
  permanent : Bool

end MixedTraffic

import MixedTraffic.Network.Basic
import MixedTraffic.Setup.ConfigError

namespace MixedTraffic

structure TrackerConfig (α : Type) [Quantity α] where
  /-- Flow is counted where vehicles enter this link. -/
  referenceLink : LinkId := ⟨0⟩
  /-- The number of intervals in a bin. -/
  binTicks : Nat := 60
  /-- The number of bins over which flow and speed are taken. -/
  windowBins : Nat := 15
  /-- The largest relative change from bin to bin that still counts as stable. -/
  tolerance : α := Quantity.fraction 5 100
  /-- The number of stable bins in a row that make a quantity stable. -/
  stableBins : Nat := 4
  /-- The metres of road over which density is taken, the whole network if absent. -/
  measuredLength : Option α := none

namespace TrackerConfig

variable {α : Type} [Quantity α]

def metres (config : TrackerConfig α) (network : Network α) : α :=
  config.measuredLength.getD network.totalLength

def check (config : TrackerConfig α) (network : Network α) :
    Except (ConfigError α) Unit := do
  ConfigError.require (config.binTicks != 0) .binTicksZero
  ConfigError.require (config.windowBins != 0) .windowBinsZero
  ConfigError.require (config.stableBins != 0) .stableBinsZero
  ConfigError.require
    (Quantity.isFinite config.tolerance && decide (Quantity.zero ≤ config.tolerance))
    (.toleranceInvalid config.tolerance)
  ConfigError.require (network.link? config.referenceLink).isSome
    (.referenceLinkMissing config.referenceLink)
  ConfigError.require (Quantity.isPositive (config.metres network))
    (.measuredLengthNotPositive (config.metres network))

end TrackerConfig

end MixedTraffic

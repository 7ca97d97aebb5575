import MixedTraffic.Key

namespace MixedTraffic

/-! Settings are checked once, before the first interval. Every way in which they can
contradict each other is a cause of its own. -/

inductive Inconsistency (α : Type) where
  | noModes
  | tooManyModes
  | pcuNotPositive (mode : String) (pcu : α)
  | speedNotPositive (mode : String) (speed : α)
  | modeRepeated (mode : String)
  | tickSecsZero
  | windowEmpty (startSecs endSecs : Nat)
  | noThreads
  | cellNotPositive (cell : α)
  | stuckTimeZero
  | seepFractionOutOfRange (fraction : α)
  | binTicksZero
  | windowBinsZero
  | stableBinsZero
  | toleranceInvalid (tolerance : α)
  | referenceLinkMissing (link : LinkId)
  | measuredLengthNotPositive (metres : α)
  | trackerTickZero
  | sweepWithoutModes
  | shareCountMismatch (shares modes : Nat)
  | shareTooSmall (share : α)
  | reduceFactorZero
  | departureWindowZero
  | subdivisionZero
  | trackNotPositive (what : String) (value : α)
  | agentCountMismatch (counts modes : Nat)
  | trackerMissing

inductive ConfigError (α : Type) where
  | inconsistent (cause : Inconsistency α)
  | unknownMode (name : String)

def ConfigError.require {α : Type} (condition : Bool) (cause : Inconsistency α) :
    Except (ConfigError α) Unit :=
  if condition then .ok () else .error (.inconsistent cause)

end MixedTraffic

import MixedTraffic.Road.Error
import MixedTraffic.Network.Basic

namespace MixedTraffic

inductive RunError (α : Type) where
  | config (cause : ConfigError α)
  | network (cause : NetworkError α)
  | agent (cause : AgentError)
  | road (cause : RoadError α)

/-- Why a departure fails. -/
def RunError.ofDeparture {α : Type} : RoadError α → RunError α
  | .agent cause => .agent cause
  | cause => .road cause

end MixedTraffic

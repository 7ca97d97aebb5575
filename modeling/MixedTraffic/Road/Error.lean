import MixedTraffic.Population
import MixedTraffic.Setup.ConfigError

namespace MixedTraffic

inductive RoadError (α : Type) where
  /-- There is no room for a vehicle. It waits, and the run goes on. -/
  | capacityExceeded (link : LinkId) (required available : α)
  | notOutgoing (agent : AgentId) (next : LinkId) (node : NodeId)
  | unknownLink (agent : AgentId) (link : LinkId)
  | vehicleMissing (link : LinkId) (agent : AgentId)
  | noSuchLink (link : LinkId)
  | noSuchNode (node : NodeId)
  | noSuchMode (mode : ModeId)
  /-- An interval is so late that the counters do not go so far. -/
  | noSuchTick (tick : Tick)
  | agent (cause : AgentError)
  | config (cause : ConfigError α)

def RoadError.isCapacity {α : Type} : RoadError α → Bool
  | capacityExceeded .. => true
  | _ => false

end MixedTraffic

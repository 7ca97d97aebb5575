import MixedTraffic.Clock
import MixedTraffic.Setup.ModeTable

namespace MixedTraffic

structure Vehicle (α : Type) where
  agent : AgentId
  mode : ModeId
  pcu : α
  maxSpeed : α
  /-- The interval in which it entered the link. -/
  entered : Tick := 0
  /-- The first interval in which it may leave the link. -/
  exitTick : Tick := 0
  /-- It is held in the seepage pool of the link, not in the regular storage. -/
  seeping : Bool := false
  /-- Its admission number on the link. -/
  seq : Nat := 0

namespace Vehicle

variable {α : Type} [Quantity α]

/-- A new vehicle for an agent, if its mode is in the table. -/
def new? (table : ModeTable α) (agent : AgentId) (mode : ModeId) : Option (Vehicle α) :=
  (table.get? mode).map fun type =>
    { agent, mode, pcu := type.pcu, maxSpeed := type.maxSpeed }

def id (vehicle : Vehicle α) : VehicleId := vehicle.agent.vehicle

/-- Whether a vehicle stands ahead of another on a link that is ordered by exit. -/
def isAhead (ahead behind : Vehicle α) : Bool :=
  decide (ahead.exitTick < behind.exitTick ∨
    ahead.exitTick = behind.exitTick ∧ ahead.seq ≤ behind.seq)

end Vehicle

end MixedTraffic

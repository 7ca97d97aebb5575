import MixedTraffic.Interrupted
import MixedTraffic.Network.Basic
import MixedTraffic.Road.Error
import MixedTraffic.Road.Vehicle
import MixedTraffic.Setup.Dynamics

namespace MixedTraffic

/-! The queue of one link. A vehicle takes up storage from its admission until it leaves,
in the regular pool or in the one for seeping modes. It draws on the flow accumulator
when it leaves, unless it is removed as stuck. The accumulator gains the flow budget in
each interval; its ceiling is never below the largest vehicle, so that a link with a small
budget still lets a large vehicle out once in a while.

A link is first in, first out, unless it allows passing. Then it is ordered by exit tick,
equal ones by admission number, so a faster vehicle stands ahead of a slower one that it
will overtake. -/

structure Room (α : Type) where
  regular : α
  seepage : α

namespace Room

variable {α : Type} [Quantity α]

/-- Reserves space, in the regular pool if it fits there. The answer says whether it is in
the seepage pool. -/
def take? (room : Room α) (pcu : α) (maySeep : Bool) : Option (Bool × Room α) :=
  if pcu ≤ room.regular + Quantity.slack then
    some (false, { room with regular := room.regular - pcu })
  else if maySeep ∧ pcu ≤ room.seepage + Quantity.slack then
    some (true, { room with seepage := room.seepage - pcu })
  else none

end Room

structure LinkQueue (α : Type) where
  link : LinkId
  length : α
  freeSpeed : α
  tickSecs : Nat
  storage : α
  seepStorage : α
  occupied : α
  seepOccupied : α
  flowBudget : α
  flowCeiling : α
  accumulator : α
  /-- The passenger-car units that have left since the interval began. -/
  discharged : α
  /-- The first vehicle that a full downstream link turned away, and the interval in which
  it was first turned away. Cleared when that vehicle leaves. -/
  blocked : Option (AgentId × Tick)
  passing : Bool
  nextSeq : Nat
  vehicles : List (Vehicle α)

namespace LinkQueue

variable {α : Type} [Quantity α]

def setFlow (queue : LinkQueue α) (capacity maxPcu : α) : LinkQueue α :=
  let budget := capacity * (queue.tickSecs : α) / ((3600 : Nat) : α)
  let ceiling := Quantity.larger budget maxPcu
  { queue with
    flowBudget := budget
    flowCeiling := ceiling
    accumulator := Quantity.smaller queue.accumulator ceiling }

def ofLink (key : LinkId) (link : Link α) (dynamics : Dynamics α) (table : ModeTable α)
    (tickSecs : Nat) : LinkQueue α :=
  let storage := Quantity.larger (link.storageFor dynamics.cell) table.maxPcu
  let queue : LinkQueue α :=
    { link := key
      length := link.length
      freeSpeed := link.freeSpeed
      tickSecs
      storage
      seepStorage :=
        dynamics.seepage.elim Quantity.zero fun seepage => storage * seepage.fraction
      occupied := Quantity.zero
      seepOccupied := Quantity.zero
      flowBudget := Quantity.zero
      flowCeiling := Quantity.zero
      accumulator := Quantity.zero
      discharged := Quantity.zero
      blocked := none
      passing := dynamics.passing && link.allowsPassing
      nextSeq := 0
      vehicles := [] }
  let queue := queue.setFlow link.flowCapacity table.maxPcu
  { queue with accumulator := queue.flowCeiling }

/-- Takes over a changed free speed and flow capacity. The vehicles on the link keep their
exit ticks. -/
def refresh (queue : LinkQueue α) (link : Link α) (table : ModeTable α) : LinkQueue α :=
  { queue with freeSpeed := link.freeSpeed }.setFlow link.flowCapacity table.maxPcu

def room (queue : LinkQueue α) : Room α :=
  { regular := queue.storage - queue.occupied
    seepage := queue.seepStorage - queue.seepOccupied }

def travelTicks (queue : LinkQueue α) (maxSpeed : α) : Nat :=
  let secs := queue.length / Quantity.smaller queue.freeSpeed maxSpeed
  -- A speed given in km/h leaves a rest just above a whole interval.
  max (Quantity.ceilNat (secs / (queue.tickSecs : α) - Quantity.slack)) 1

def blockedSince? (queue : LinkQueue α) (agent : AgentId) : Option Tick :=
  queue.blocked.bind fun (blocked, since) => if blocked = agent then some since else none

def markBlocked (queue : LinkQueue α) (agent : AgentId) (now : Tick) : LinkQueue α :=
  if (queue.blockedSince? agent).isSome then queue
  else { queue with blocked := some (agent, now) }

def refill (queue : LinkQueue α) : LinkQueue α :=
  { queue with
    accumulator :=
      Quantity.smaller (queue.accumulator + queue.flowBudget) queue.flowCeiling
    discharged := Quantity.zero }

def place (queue : LinkQueue α) (vehicle : Vehicle α) : List (Vehicle α) :=
  if queue.passing then
    queue.vehicles.takeWhile (·.isAhead vehicle) ++
      vehicle :: queue.vehicles.dropWhile (·.isAhead vehicle)
  else queue.vehicles ++ [vehicle]

def charge (queue : LinkQueue α) (seeping : Bool) (pcu : α) : LinkQueue α :=
  if seeping then { queue with seepOccupied := queue.seepOccupied + pcu }
  else { queue with occupied := queue.occupied + pcu }

/-- Admits a vehicle and answers the first interval in which it may leave. -/
def accept (queue : LinkQueue α) (vehicle : Vehicle α) (now : Tick) (maySeep : Bool) :
    Except (Interrupted (RoadError α) (LinkQueue α)) (Tick × LinkQueue α) :=
  match queue.room.take? vehicle.pcu maySeep with
  | none =>
      .error ⟨.capacityExceeded queue.link vehicle.pcu queue.room.regular, queue⟩
  | some (seeping, _) =>
      let queue := queue.charge seeping vehicle.pcu
      let travel := queue.travelTicks vehicle.maxSpeed
      match now.after? α travel with
      | none => .error ⟨.noSuchTick (now + travel), queue⟩
      | some exitTick =>
          let vehicle :=
            { vehicle with entered := now, exitTick, seeping, seq := queue.nextSeq }
          .ok (exitTick, { queue with
            vehicles := queue.place vehicle
            nextSeq := queue.nextSeq + 1 })

def release (held pcu : α) : α := Quantity.larger (held - pcu) Quantity.zero

def take (queue : LinkQueue α) (agent : AgentId) (movesOn : Bool) :
    Except (Interrupted (RoadError α) (LinkQueue α)) (Vehicle α × LinkQueue α) :=
  match queue.vehicles.find? (·.agent == agent) with
  | none => .error ⟨.vehicleMissing queue.link agent, queue⟩
  | some vehicle =>
      let queue := { queue with vehicles := queue.vehicles.eraseP (·.agent == agent) }
      let queue :=
        if vehicle.seeping then
          { queue with seepOccupied := release queue.seepOccupied vehicle.pcu }
        else { queue with occupied := release queue.occupied vehicle.pcu }
      let queue :=
        if movesOn then
          { queue with
            accumulator := queue.accumulator - vehicle.pcu
            discharged := queue.discharged + vehicle.pcu }
        else queue
      .ok (vehicle,
        if (queue.blockedSince? agent).isSome then { queue with blocked := none } else queue)

def readyAgents (now : Tick) : α → List (Vehicle α) → List AgentId
  | _, [] => []
  | accumulator, vehicle :: rest =>
      if vehicle.exitTick ≤ now ∧ vehicle.pcu ≤ accumulator + Quantity.slack then
        vehicle.agent :: readyAgents now (accumulator - vehicle.pcu) rest
      else []

/-- The agents that could leave if there were room for all downstream, in leaving order. -/
def ready (queue : LinkQueue α) (now : Tick) : List AgentId :=
  readyAgents now queue.accumulator queue.vehicles

end LinkQueue

end MixedTraffic

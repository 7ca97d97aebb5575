import MixedTraffic.Road.Roads

namespace MixedTraffic

/-! What a node does in one interval. All nodes decide from the same state, before any of
their decisions is carried out.

A node serves its inbound links by priority. On each link it asks the drivers of the ready
vehicles for their next links, from front to back, until the flow accumulator runs dry or
a vehicle is turned away by a full downstream link. Behind that one only seeping modes go
on. What was asked for is recorded beside the plan for the link, and the hearings of all
inbound links make up the decision. -/

inductive Move where
  | transfer (source : LinkId) (agent : AgentId) (target : LinkId)
  | arrive (source : LinkId) (agent : AgentId)
  | stuck (source : LinkId) (agent : AgentId)
deriving DecidableEq

structure NodeDecision where
  node : NodeId
  moves : List Move := []
  rejections : Nat := 0
  /-- Per inbound link, the first vehicle turned away and left in its place. -/
  blocked : List (LinkId × AgentId) := []

structure LinkPlan where
  moves : List Move := []
  rejections : Nat := 0
  blocked : Option AgentId := none

namespace LinkPlan

def move (plan : LinkPlan) (first : Move) : LinkPlan :=
  { plan with moves := first :: plan.moves }

def reject (plan : LinkPlan) : LinkPlan := { plan with rejections := plan.rejections + 1 }

end LinkPlan

structure Request (α : Type) where
  source : LinkId
  vehicle : Vehicle α
  target : LinkId
  granted : Bool

structure Hearing (α : Type) where
  link : LinkId
  plan : LinkPlan
  requests : List (Request α)

def NodeDecision.ofHearings {α : Type} (node : NodeId) (hearings : List (Hearing α)) :
    NodeDecision where
  node := node
  moves := hearings.flatMap (·.plan.moves)
  rejections := (hearings.map (·.plan.rejections)).foldr (· + ·) 0
  blocked := hearings.flatMap fun hearing => (hearing.plan.blocked.map (hearing.link, ·)).toList

abbrev Rooms (α : Type) := List (LinkId × Room α)

def Rooms.set {α : Type} (rooms : Rooms α) (link : LinkId) (room : Room α) : Rooms α :=
  rooms.map fun entry => if entry.1 = link then (link, room) else entry

namespace Roads

variable {α : Type} [Quantity α]

structure Junction (α : Type) where
  node : NodeId
  network : Network α
  population : Population
  context : RouteContext

/-- The link that the driver of a ready vehicle asks for, none to arrive. -/
def Junction.ask (junction : Junction α) (source : LinkId) (vehicle : Vehicle α) :
    Except (RoadError α) (Option LinkId) := do
  let agent ← (junction.population.find vehicle.agent).mapError .agent
  return agent.driver.nextLink? vehicle.agent source agent.trip.state.step junction.context

def Junction.refuse (junction : Junction α) (vehicle : Vehicle α) (next : LinkId) :
    RoadError α :=
  if (junction.network.link? next).isSome then
    .notOutgoing vehicle.agent next junction.node
  else .unknownLink vehicle.agent next

def isStuck (roads : Roads α) (queue : LinkQueue α) (agent : AgentId) (now : Tick) : Bool :=
  roads.stuckTicks.any fun limit =>
    decide (limit ≤ now - (queue.blockedSince? agent).getD now)

/-- Plans for the remaining `vehicles` of a link, and tells what their drivers asked for. `held`
says whether a vehicle ahead of them was turned away. -/
def hearVehicles (roads : Roads α) (junction : Junction α) (queue : LinkQueue α)
    (accumulator : α) (held : Bool) (rooms : Rooms α) :
    List (Vehicle α) → Except (RoadError α) (LinkPlan × List (Request α) × Rooms α)
  | [] => .ok ({}, [], rooms)
  | vehicle :: rest => do
      let now := junction.context.now
      let maySeep := roads.seeps vehicle.mode
      if now < vehicle.exitTick then return ({}, [], rooms)
      else if held && !maySeep then
        roads.hearVehicles junction queue accumulator held rooms rest
      else if accumulator + Quantity.slack < vehicle.pcu then return ({}, [], rooms)
      else
        match ← junction.ask queue.link vehicle with
        | none =>
            let (plan, requests, rooms) ← roads.hearVehicles junction queue
              (accumulator - vehicle.pcu) held rooms rest
            return (plan.move (.arrive queue.link vehicle.agent), requests, rooms)
        | some next =>
            let room ← (rooms.lookup next).elim (.error (junction.refuse vehicle next)) .ok
            match room.take? vehicle.pcu maySeep with
            | some (_, room) =>
                let (plan, requests, rooms) ← roads.hearVehicles junction queue
                  (accumulator - vehicle.pcu) held (rooms.set next room) rest
                return (plan.move (.transfer queue.link vehicle.agent next),
                  ⟨queue.link, vehicle, next, true⟩ :: requests, rooms)
            | none =>
                if !held && roads.isStuck queue vehicle.agent now then
                  return (LinkPlan.reject { moves := [.stuck queue.link vehicle.agent] },
                    [⟨queue.link, vehicle, next, false⟩], rooms)
                else
                  let (plan, requests, rooms) ←
                    if roads.anySeeps then
                      roads.hearVehicles junction queue accumulator true rooms rest
                    else pure ({}, [], rooms)
                  let blocked := if held then plan.blocked else some vehicle.agent
                  return ({ plan.reject with blocked },
                    ⟨queue.link, vehicle, next, false⟩ :: requests, rooms)

def hearLinks (roads : Roads α) (junction : Junction α) (rooms : Rooms α) :
    List LinkId → Except (RoadError α) (List (Hearing α) × Rooms α)
  | [] => .ok ([], rooms)
  | link :: rest => do
      let queue ← roads.queue link
      let (plan, requests, rooms) ← roads.hearVehicles junction queue queue.accumulator false
        rooms queue.vehicles
      let (others, rooms) ← roads.hearLinks junction rooms rest
      return (⟨link, plan, requests⟩ :: others, rooms)

def roomsOf (roads : Roads α) (links : List LinkId) : Except (RoadError α) (Rooms α) :=
  links.mapM fun link => do
    let queue ← roads.queue link
    return (link, queue.room)

def hear (roads : Roads α) (network : Network α) (population : Population)
    (context : RouteContext) (node : NodeId) :
    Except (RoadError α) (List (Hearing α) × Rooms α) := do
  let outgoing ← (network.outgoing? node).elim (.error (.noSuchNode node)) .ok
  let inbound ← (roads.inbound? node).elim (.error (.noSuchNode node)) .ok
  let rooms ← roads.roomsOf outgoing
  roads.hearLinks { node, network, population, context } rooms inbound

def decide (roads : Roads α) (network : Network α) (population : Population)
    (context : RouteContext) (node : NodeId) : Except (RoadError α) NodeDecision := do
  let (hearings, _) ← roads.hear network population context node
  return .ofHearings node hearings

end Roads

end MixedTraffic

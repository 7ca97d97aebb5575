import MixedTraffic.Network.Basic
import MixedTraffic.Road.LinkQueue

namespace MixedTraffic

/-! The queues of all links, and the order in which each node serves its inbound links. -/

structure Roads (α : Type) where
  queues : Array (LinkQueue α)
  /-- Per node, its inbound links by priority. -/
  inbound : Array (List LinkId)
  order : InboundOrder
  seepFlags : Array Bool
  stuckTicks : Option Nat

namespace Roads

variable {α : Type} [Quantity α]

def capacityOf (network : Network α) (link : LinkId) : α :=
  (network.link? link).elim Quantity.zero (·.flowCapacity)

/-- The inbound links of each node by priority. Equal capacities keep the order by key. -/
def rankInbound (order : InboundOrder) (network : Network α) : Array (List LinkId) :=
  match order with
  | .byKey => network.incoming
  | .byCapacity => network.incoming.map fun links =>
      links.mergeSort fun a b =>
        !decide (capacityOf network a < capacityOf network b)

def ofNetwork (network : Network α) (dynamics : Dynamics α) (table : ModeTable α)
    (tickSecs : Nat) : Except (RoadError α) (Roads α) := do
  (dynamics.check table).mapError .config
  return {
    queues := network.links.mapIdx fun position link =>
      LinkQueue.ofLink ⟨position⟩ link dynamics table tickSecs
    inbound := rankInbound dynamics.inboundOrder network
    order := dynamics.inboundOrder
    seepFlags := dynamics.seepFlags table
    stuckTicks := dynamics.stuckTicks tickSecs }

def queue? (roads : Roads α) (link : LinkId) : Option (LinkQueue α) :=
  roads.queues[link.index]?

def queue (roads : Roads α) (link : LinkId) : Except (RoadError α) (LinkQueue α) :=
  (roads.queue? link).elim (.error (.noSuchLink link)) .ok

def setQueue (roads : Roads α) (link : LinkId) (queue : LinkQueue α) : Roads α :=
  { roads with queues := roads.queues.setIfInBounds link.index queue }

def inbound? (roads : Roads α) (node : NodeId) : Option (List LinkId) :=
  roads.inbound[node.index]?

def seeps (roads : Roads α) (mode : ModeId) : Bool :=
  roads.seepFlags[mode.index]?.getD false

def anySeeps (roads : Roads α) : Bool := roads.seepFlags.any id

def size (roads : Roads α) : Nat :=
  roads.queues.foldl (fun total queue => total + queue.vehicles.length) 0

/-- Takes over the attributes that a link has in `network` after a change. -/
def refresh (roads : Roads α) (link : LinkId) (network : Network α)
    (table : ModeTable α) : Roads α :=
  let roads := match roads.queue? link, network.link? link with
    | some queue, some attributes =>
        roads.setQueue link (queue.refresh attributes table)
    | _, _ => roads
  match roads.order with
  | .byKey => roads
  | .byCapacity => { roads with inbound := rankInbound .byCapacity network }

def refill (roads : Roads α) : Roads α :=
  { roads with queues := roads.queues.map (·.refill) }

/-- Puts a departing agent's vehicle on its first link and answers the first interval in
which it may leave. -/
def insert (roads : Roads α) (table : ModeTable α) (agent : AgentId) (mode : ModeId)
    (link : LinkId) (now : Tick) :
    Except (Interrupted (RoadError α) (Roads α)) (Tick × Roads α) := do
  let queue ← (roads.queue? link).elim (.error ⟨.unknownLink agent link, roads⟩) .ok
  let vehicle ← (Vehicle.new? table agent mode).elim (.error ⟨.noSuchMode mode, roads⟩) .ok
  let (exitTick, queue) ← (queue.accept vehicle now (roads.seeps mode)).mapError
    (·.within id (roads.setQueue link))
  return (exitTick, roads.setQueue link queue)

end Roads

end MixedTraffic

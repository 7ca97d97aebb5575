import MixedTraffic.Event.Basic
import MixedTraffic.Road.Decision

namespace MixedTraffic

/-! Carrying out what the nodes decided. -/

/-- The state that moving vehicles changes, and the events so far in the interval. -/
structure Traffic (α : Type) where
  roads : Roads α
  population : Population
  events : Array Event := #[]

structure MoveCounts where
  transferred : Nat := 0
  arrived : Nat := 0
  stuck : Nat := 0

namespace MoveCounts

def add (counts more : MoveCounts) : MoveCounts where
  transferred := counts.transferred + more.transferred
  arrived := counts.arrived + more.arrived
  stuck := counts.stuck + more.stuck

def ofMove : Move → MoveCounts
  | .transfer .. => { transferred := 1 }
  | .arrive .. => { arrived := 1 }
  | .stuck .. => { stuck := 1 }

def ofMoves (moves : List Move) : MoveCounts :=
  moves.foldl (fun counts move => counts.add (ofMove move)) {}

end MoveCounts

def NodeDecision.counts (decision : NodeDecision) : MoveCounts :=
  MoveCounts.ofMoves decision.moves

namespace Traffic

variable {α : Type} [Quantity α]

/-- A result, or the interruption that leaves `traffic` as it is. -/
def orStop {β : Type} (traffic : Traffic α) (result : Except (RoadError α) β) :
    Except (Interrupted (RoadError α) (Traffic α)) β :=
  result.mapError fun cause => ⟨cause, traffic⟩

def emit (traffic : Traffic α) (now : Tick) (kind : EventKind) (agent : AgentId)
    (link : LinkId) : Traffic α :=
  { traffic with events := traffic.events.push ⟨now, kind, agent, link⟩ }

def setQueue (traffic : Traffic α) (link : LinkId) (queue : LinkQueue α) : Traffic α :=
  { traffic with roads := traffic.roads.setQueue link queue }

def takeOff (traffic : Traffic α) (link : LinkId) (agent : AgentId) (movesOn : Bool) :
    Except (Interrupted (RoadError α) (Traffic α)) (Vehicle α × Traffic α) := do
  let queue ← traffic.orStop (traffic.roads.queue link)
  let (vehicle, queue) ← (queue.take agent movesOn).mapError
    (·.within id (traffic.setQueue link))
  return (vehicle, traffic.setQueue link queue)

def putOn (traffic : Traffic α) (link : LinkId) (vehicle : Vehicle α) (now : Tick) :
    Except (Interrupted (RoadError α) (Traffic α)) (Traffic α) := do
  let queue ← traffic.orStop (traffic.roads.queue link)
  let (_, queue) ← (queue.accept vehicle now (traffic.roads.seeps vehicle.mode)).mapError
    (·.within id (traffic.setQueue link))
  return traffic.setQueue link queue

def setAgent (traffic : Traffic α) (agent : AgentId) (member : Agent) : Traffic α :=
  { traffic with population := traffic.population.set agent member }

def act (traffic : Traffic α) (agent : AgentId) (action : TripAction) :
    Except (Interrupted (RoadError α) (Traffic α)) (Traffic α) := do
  let member ← traffic.orStop ((traffic.population.acting agent action).mapError .agent)
  return traffic.setAgent agent member

/-- Puts a new vehicle of a waiting agent on a link, and answers the first interval in which
it may leave. -/
def board (table : ModeTable α) (now : Tick) (traffic : Traffic α) (agent : AgentId)
    (link : LinkId) :
    Except (Interrupted (RoadError α) (Traffic α)) (Tick × Traffic α) := do
  let member ← traffic.orStop ((traffic.population.find agent).mapError .agent)
  let (exitTick, roads) ← (traffic.roads.insert table agent member.mode link now).mapError
    (·.within id fun roads => { traffic with roads })
  let traffic ← { traffic with roads }.act agent (.depart link)
  return (exitTick, traffic)

/-- As `board`, for an agent who may not be waiting yet and then begins to. -/
def enter (table : ModeTable α) (now : Tick) (traffic : Traffic α) (agent : AgentId)
    (link : LinkId) :
    Except (Interrupted (RoadError α) (Traffic α)) (Tick × Traffic α) := do
  let traffic ← traffic.act agent (.wait now)
  traffic.board table now agent link

def move (now : Tick) (traffic : Traffic α) :
    Move → Except (Interrupted (RoadError α) (Traffic α)) (Traffic α)
  | .transfer source agent target => do
      let (vehicle, traffic) ← traffic.takeOff source agent true
      let traffic := traffic.emit now .linkLeft agent source
      let traffic ← traffic.putOn target vehicle now
      let traffic ← traffic.act agent (.advance target)
      return traffic.emit now .linkEntered agent target
  | .arrive source agent => do
      let (_, traffic) ← traffic.takeOff source agent true
      let traffic := traffic.emit now .linkLeft agent source
      let traffic ← traffic.act agent .arrive
      let traffic ← traffic.act agent .complete
      return traffic.emit now .arrived agent source
  | .stuck source agent => do
      let (_, traffic) ← traffic.takeOff source agent false
      let traffic ← traffic.act agent .abort
      return traffic.emit now .stuck agent source

def mark (now : Tick) (traffic : Traffic α) (entry : LinkId × AgentId) :
    Except (Interrupted (RoadError α) (Traffic α)) (Traffic α) := do
  let queue ← traffic.orStop (traffic.roads.queue entry.1)
  return traffic.setQueue entry.1 (queue.markBlocked entry.2 now)

def commit (now : Tick) (traffic : Traffic α) (decision : NodeDecision) :
    Except (Interrupted (RoadError α) (Traffic α)) (Traffic α) := do
  let traffic ← decision.moves.foldlM (move now) traffic
  decision.blocked.foldlM (mark now) traffic

/-- Lets one node decide and carries its decision out at once. Nodes that step later in the
same interval see what it did. -/
def stepNode (traffic : Traffic α) (network : Network α) (context : RouteContext)
    (node : NodeId) :
    Except (Interrupted (RoadError α) (Traffic α)) (NodeDecision × Traffic α) := do
  let decision ← traffic.orStop
    (traffic.roads.decide network traffic.population context node)
  let traffic ← commit context.now traffic decision
  return (decision, traffic)

end Traffic

end MixedTraffic

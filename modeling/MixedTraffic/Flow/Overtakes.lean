import MixedTraffic.Event.Basic
import MixedTraffic.Interrupted
import MixedTraffic.Network.Basic

namespace MixedTraffic

/-! A vehicle overtakes one of another mode that entered the same link before it and is
still there when it leaves. Overtakes within a mode are not counted. -/

structure OvertakeCounter (α : Type) where
  agentModes : Array ModeId
  modeCount : Nat
  linkKm : Array α
  measuredKm : α
  /-- The vehicles on each link in the order of entry. -/
  onLink : Array (List (AgentId × ModeId))
  perLink : Array Nat
  /-- The overtakes by pair of modes, row by row with the overtaker first. -/
  pairs : Array Nat
  total : Nat
  traversals : Nat
  /-- The overtakes per kilometre of link, added up over the traversals. -/
  rateSum : α

namespace OvertakeCounter

variable {α : Type} [Quantity α]

/-- A counter whose rates are taken over `measured` metres, the whole network if absent. -/
def new (network : Network α) (modeCount : Nat) (agentModes : Array ModeId)
    (measured : Option α) : OvertakeCounter α where
  agentModes := agentModes
  modeCount := modeCount
  linkKm := network.links.map fun link => link.length / ((1000 : Nat) : α)
  measuredKm := measured.getD network.totalLength / ((1000 : Nat) : α)
  onLink := network.links.map fun _ => []
  perLink := network.links.map fun _ => 0
  pairs := Array.replicate (modeCount * modeCount) 0
  total := 0
  traversals := 0
  rateSum := Quantity.zero

structure UnlistedPair where
  overtaker : ModeId
  overtaken : ModeId

def countPair (overtaker : ModeId) (counter : OvertakeCounter α) (overtaken : ModeId) :
    Except (Interrupted UnlistedPair (OvertakeCounter α)) (OvertakeCounter α) :=
  let cell := overtaker.index * counter.modeCount + overtaken.index
  if cell < counter.pairs.size then
    .ok { counter with pairs := counter.pairs.modify cell (· + 1) }
  else .error ⟨⟨overtaker, overtaken⟩, counter⟩

/-- An agent leaves a link on which it stands behind `ahead`. -/
def countLeaving (counter : OvertakeCounter α) (agent : AgentId) (mode : ModeId)
    (link : LinkId) (ahead : List (AgentId × ModeId)) :
    Except (Interrupted UnlistedPair (OvertakeCounter α)) (OvertakeCounter α) := do
  let overtaken := (ahead.map (·.2)).filter (· != mode)
  let counter ← overtaken.foldlM (countPair mode) counter
  let km := counter.linkKm[link.index]?.getD Quantity.zero
  return { counter with
    onLink := counter.onLink.modify link.index (·.eraseP (·.1 == agent))
    perLink := counter.perLink.modify link.index (· + overtaken.length)
    total := counter.total + overtaken.length
    traversals := counter.traversals + 1
    rateSum := counter.rateSum + (overtaken.length : α) / km }

/-- Takes in an event. Those of unknown agents and links say nothing. -/
def record (counter : OvertakeCounter α) (event : Event) :
    Except (Interrupted UnlistedPair (OvertakeCounter α)) (OvertakeCounter α) :=
  match counter.agentModes[event.agent.index]?, counter.onLink[event.link.index]? with
  | some mode, some vehicles =>
      match event.kind with
      | .linkEntered =>
          .ok { counter with
            onLink := counter.onLink.modify event.link.index (· ++ [(event.agent, mode)]) }
      | .linkLeft =>
          if vehicles.any (·.1 == event.agent) then
            counter.countLeaving event.agent mode event.link
              (vehicles.takeWhile (·.1 != event.agent))
          else .ok counter
      | .stuck =>
          .ok { counter with
            onLink := counter.onLink.modify event.link.index
              (·.filter (·.1 != event.agent)) }
      | .departed | .arrived => .ok counter
  | _, _ => .ok counter

/-- As `record`, for a counter that lists every mode of the run. -/
def hear (event : Event) (counter : OvertakeCounter α) : OvertakeCounter α :=
  match counter.record event with
  | .ok counter => counter
  | .error interruption => interruption.reached

def recordAll (counter : OvertakeCounter α) (events : List Event) :
    Except (Interrupted UnlistedPair (OvertakeCounter α)) (OvertakeCounter α) :=
  events.foldlM record counter

def countOn (counter : OvertakeCounter α) (link : LinkId) : Nat :=
  counter.perLink[link.index]?.getD 0

def pair (counter : OvertakeCounter α) (overtaker overtaken : ModeId) : Nat :=
  if overtaker.index < counter.modeCount ∧ overtaken.index < counter.modeCount then
    counter.pairs[overtaker.index * counter.modeCount + overtaken.index]?.getD 0
  else 0

def perKm (counter : OvertakeCounter α) : α := (counter.total : α) / counter.measuredKm

def pairPerKm (counter : OvertakeCounter α) (overtaker overtaken : ModeId) : α :=
  (counter.pair overtaker overtaken : α) / counter.measuredKm

/-- The mean over all traversals of the overtakes per kilometre of link. -/
def averageRate (counter : OvertakeCounter α) : α :=
  if counter.traversals = 0 then Quantity.zero
  else counter.rateSum / (counter.traversals : α)

end OvertakeCounter

end MixedTraffic

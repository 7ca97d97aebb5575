import Mathlib.Data.Option.Basic
import MixedTraffic.Proofs.Network
import MixedTraffic.Proofs.Road.Fleet

namespace MixedTraffic

variable {α : Type}

/-! What the roads take over from their network, and keep in step with it. -/

def LinkQueue.pace (queue : LinkQueue α) : α × α × Nat :=
  (queue.length, queue.freeSpeed, queue.tickSecs)

def Link.pace (tickSecs : Nat) (link : Link α) : α × α × Nat :=
  (link.length, link.freeSpeed, tickSecs)

namespace Roads

structure Mirrors (roads : Roads α) (tickSecs : Nat) (network : Network α) : Prop where
  paces : ∀ link,
    (roads.queue? link).map LinkQueue.pace = (network.link? link).map (Link.pace tickSecs)
  inbound : ∀ node, Option.Rel List.Perm (roads.inbound? node) (network.incoming? node)

namespace Mirrors

variable {roads roads' : Roads α} {network network' : Network α} {tickSecs : Nat}

theorem isSome_queue? (mirrors : roads.Mirrors tickSecs network) (link : LinkId) :
    (roads.queue? link).isSome = (network.link? link).isSome := by
  have same := congrArg Option.isSome (mirrors.paces link)
  rwa [Option.isSome_map, Option.isSome_map] at same

theorem congr (mirrors : roads.Mirrors tickSecs network)
    (paces : roads'.queues.map LinkQueue.pace = roads.queues.map LinkQueue.pace)
    (inbound : roads'.inbound = roads.inbound) : roads'.Mirrors tickSecs network := by
  constructor
  · intro link
    rw [← mirrors.paces link, queue?, queue?, ← Array.getElem?_map, ← Array.getElem?_map, paces]
  · intro node
    rw [inbound?, inbound]
    exact mirrors.inbound node

end Mirrors

end Roads

variable [Quantity α]

/-- The whole intervals that a vehicle of the given maximum speed takes on an empty link, at
least one. -/
def Link.travelTicks (tickSecs : Nat) (link : Link α) (maxSpeed : α) : Nat :=
  max (Quantity.ceilNat (link.freeTravelSecs maxSpeed / (tickSecs : α) - Quantity.slack)) 1

theorem Link.travelTicks_pos (tickSecs : Nat) (link : Link α) (maxSpeed : α) :
    0 < link.travelTicks tickSecs maxSpeed := by
  unfold travelTicks
  omega

theorem LinkQueue.travelTicks_of_pace {queue : LinkQueue α} {link : Link α} {tickSecs : Nat}
    (same : queue.pace = link.pace tickSecs) (maxSpeed : α) :
    queue.travelTicks maxSpeed = link.travelTicks tickSecs maxSpeed := by
  simp only [pace, Link.pace, Prod.mk.injEq] at same
  simp only [travelTicks, Link.travelTicks, Link.freeTravelSecs, same]

namespace Roads

theorem rankInbound_rel (order : InboundOrder) (network : Network α) (node : NodeId) :
    Option.Rel List.Perm (rankInbound order network)[node.index]?
      (network.incoming? node) := by
  cases order with
  | byKey =>
      simp only [rankInbound, Network.incoming?]
      cases network.incoming[node.index]? with
      | none => exact .none
      | some row => exact .some (.refl row)
  | byCapacity =>
      simp only [rankInbound, Network.incoming?, Array.getElem?_map]
      cases network.incoming[node.index]? with
      | none => exact .none
      | some row => exact .some (List.mergeSort_perm ..)

section Refresh

variable {roads : Roads α} {link : LinkId} {network : Network α} {table : ModeTable α}

theorem queue?_refresh {queue : LinkQueue α} {attributes : Link α}
    (present : roads.queue? link = some queue) (found : network.link? link = some attributes)
    (other : LinkId) :
    (roads.refresh link network table).queue? other =
      if other = link then some (queue.refresh attributes table)
      else roads.queue? other := by
  rw [← queue?_setQueue present, refresh, present, found]
  dsimp only
  split <;> rfl

theorem queue?_refresh_of_none (absent : network.link? link = none) (other : LinkId) :
    (roads.refresh link network table).queue? other = roads.queue? other := by
  rw [refresh, absent]
  cases roads.queue? link <;> dsimp only <;> split <;> rfl

/-- What every queue copies of its link, it copies of the link after a change as well. -/
theorem map_queue?_refresh {β : Type} {part : LinkQueue α → β} {copy : Link α → β}
    {network' : Network α} {change : NetworkChange α}
    (applied : network.apply change = .ok network') (table : ModeTable α)
    (copies : ∀ link, (roads.queue? link).map part = (network.link? link).map copy)
    (renews : ∀ queue attributes, part queue = copy attributes →
      part (LinkQueue.refresh queue (change.revise attributes) table) =
        copy (change.revise attributes)) (other : LinkId) :
    ((roads.refresh change.link network' table).queue? other).map part =
      (network'.link? other).map copy := by
  have links := Network.link?_apply applied
  cases found : network.link? change.link with
  | none =>
      have absent : network'.link? change.link = none := by simp [links, found]
      rw [queue?_refresh_of_none absent, copies, links, Option.map_map]
      by_cases same : other = change.link
      · rw [same, found]
        rfl
      · simp [same, Function.comp_def]
  | some attributes =>
      have old := copies change.link
      rw [found, Option.map_some, Option.map_eq_some_iff] at old
      obtain ⟨queue, present, old⟩ := old
      have revised : network'.link? change.link = some (change.revise attributes) := by
        simp [links, found]
      rw [queue?_refresh present revised, links]
      by_cases same : other = change.link
      · simp only [same, if_true, found, Option.map_some, renews queue attributes old]
      · simp only [same, if_false, Option.map_id']
        exact copies other

theorem inbound_refresh (roads : Roads α) (link : LinkId) (network : Network α)
    (table : ModeTable α) :
    (roads.refresh link network table).inbound = roads.inbound ∨
      (roads.refresh link network table).inbound = rankInbound .byCapacity network := by
  unfold refresh
  dsimp only
  split
  · left
    split <;> rfl
  · exact .inr rfl

end Refresh

namespace Mirrors

variable {roads roads' : Roads α} {network network' : Network α} {tickSecs : Nat}

theorem travelTicks (mirrors : roads.Mirrors tickSecs network) {link : LinkId}
    {queue : LinkQueue α} (present : roads.queue? link = some queue) :
    ∃ attributes, network.link? link = some attributes ∧
      ∀ maxSpeed, queue.travelTicks maxSpeed = attributes.travelTicks tickSecs maxSpeed := by
  have same := mirrors.paces link
  rw [present, Option.map_some, eq_comm, Option.map_eq_some_iff] at same
  obtain ⟨attributes, found, equal⟩ := same
  exact ⟨attributes, found, fun _ => LinkQueue.travelTicks_of_pace equal.symm _⟩

theorem of_ofNetwork {dynamics : Dynamics α} {table : ModeTable α}
    (opened : ofNetwork network dynamics table tickSecs = .ok roads) :
    roads.Mirrors tickSecs network := by
  constructor
  · intro link
    rw [queue?_of_ofNetwork opened, Option.map_map]
    rfl
  · intro node
    obtain ⟨-, rfl⟩ := ofNetwork_eq_ok.mp opened
    exact rankInbound_rel ..

theorem refresh (mirrors : roads.Mirrors tickSecs network) {change : NetworkChange α}
    (applied : network.apply change = .ok network') (table : ModeTable α) :
    (roads.refresh change.link network' table).Mirrors tickSecs network' := by
  constructor
  · refine map_queue?_refresh applied table mirrors.paces fun queue attributes same => ?_
    simp only [LinkQueue.pace, Link.pace, Prod.mk.injEq] at same ⊢
    exact ⟨same.1, rfl, same.2.2⟩
  · intro node
    have kept : Option.Rel List.Perm (roads.inbound? node) (network'.incoming? node) := by
      rw [Network.incoming?, (Network.alike_apply applied).incoming]
      exact mirrors.inbound node
    obtain same | ranked := inbound_refresh roads change.link network' table
    · rw [inbound?, same]
      exact kept
    · rw [inbound?, ranked]
      exact rankInbound_rel ..

theorem refill (mirrors : roads.Mirrors tickSecs network) :
    roads.refill.Mirrors tickSecs network := by
  refine ⟨fun link => ?_, mirrors.inbound⟩
  rw [← mirrors.paces link]
  simp only [queue?, Roads.refill, Array.getElem?_map, Option.map_map]
  rfl

end Mirrors

end Roads

end MixedTraffic

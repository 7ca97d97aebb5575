import Mathlib.Algebra.Order.Ring.Unbundled.Rat
import MixedTraffic.Proofs.Lists
import MixedTraffic.Proofs.Road.Mirror

namespace MixedTraffic

/-! The terms on which a link is used: its free speed and its flow, which its queue copies from
the network, and the order in which a node serves it among its other inbound links. -/

/-- The laws of order that finite amounts obey. -/
structure Quantity.Ranked (α : Type) [Quantity α] : Prop where
  zero : isFinite (Quantity.zero : α) = true
  asymm : ∀ {x y : α}, isFinite x = true → isFinite y = true → x < y → ¬y < x
  trans : ∀ {x y z : α}, isFinite x = true → isFinite y = true → isFinite z = true →
    ¬x < y → ¬y < z → ¬x < z

theorem Quantity.ranked_rat : Quantity.Ranked Rat where
  zero := rfl
  asymm _ _ less := lt_asymm less
  trans _ _ _ first second := not_lt.mpr ((not_lt.mp second).trans (not_lt.mp first))

variable {α : Type}

namespace Network

/-- That each node knows the links that end there by their keys, in ascending order. -/
def Filed (network : Network α) : Prop :=
  ∀ node row, network.incoming? node = some row → row.Pairwise (·.index < ·.index)

variable {network network' : Network α} {change : NetworkChange α}

theorem Filed.of_alike (filed : network.Filed) (alike : network'.Alike network) :
    network'.Filed := by
  intro node row found
  apply filed node row
  rwa [incoming?, ← alike.incoming]

variable [Quantity α]

def Finite (network : Network α) : Prop :=
  ∀ link attributes, network.link? link = some attributes →
    Quantity.isFinite attributes.flowCapacity = true

/-- Whether a link comes before another by capacity, the larger first and equal ones by key. -/
def Outranks (network : Network α) (link other : LinkId) : Prop :=
  Roads.capacityOf network other < Roads.capacityOf network link ∨
    ¬Roads.capacityOf network link < Roads.capacityOf network other ∧ link.index < other.index

/-- The inbound links of a node in the order in which it is to serve them. -/
structure Prioritises (network : Network α) (order : InboundOrder) (node : NodeId)
    (priority : List LinkId) : Prop where
  members : ∀ link, link ∈ priority ↔
    ∃ attributes, network.link? link = some attributes ∧ attributes.finish = node
  nodup : priority.Nodup
  byKey : order = .byKey → priority.Pairwise (·.index < ·.index)
  byCapacity : order = .byCapacity → Quantity.Ranked α → priority.Pairwise network.Outranks

theorem Prioritises.perm {order : InboundOrder} {node : NodeId} {priority keys : List LinkId}
    (prioritises : network.Prioritises order node priority) (sound : network.Sound)
    (row : network.incoming? node = some keys) : priority.Perm keys :=
  (List.perm_ext_iff_of_nodup prioritises.nodup (sound.nodup_incoming row)).mpr fun link =>
    (prioritises.members link).trans (sound.mem_incoming row).symm

theorem filed_of_build {draft : NetworkDraft α} (built : draft.build = .ok network) :
    network.Filed := by
  obtain ⟨-, -, -, rfl⟩ := NetworkDraft.build_eq_ok.mp built
  exact fun _ _ filed => NetworkDraft.pairwise_adjacency filed

theorem finite_of_isPositive {value : α} (positive : Quantity.isPositive value = true) :
    Quantity.isFinite value = true :=
  (Bool.and_eq_true_iff.mp positive).1

theorem finite_of_build {draft : NetworkDraft α} (built : draft.build = .ok network) :
    network.Finite :=
  fun _ _ found => finite_of_isPositive (isPositive_of_build built found
    ("flow capacity", _) (by simp [NetworkDraft.attributes]))

theorem Finite.apply (finite : network.Finite)
    (applied : network.apply change = .ok network') : network'.Finite := by
  intro link attributes found
  rw [link?_apply applied, Option.map_eq_some_iff] at found
  obtain ⟨old, found, rfl⟩ := found
  have before := finite link old found
  split
  · have given := (check_eq_ok.mp (apply_eq_ok.mp applied).1).2.2
    unfold NetworkChange.revise
    cases value : change.flowCapacity with
    | none => exact before
    | some capacity => exact finite_of_isPositive (given capacity value)
  · exact before

theorem Finite.capacityOf (finite : network.Finite) (ranked : Quantity.Ranked α)
    (link : LinkId) : Quantity.isFinite (Roads.capacityOf network link) = true := by
  unfold Roads.capacityOf
  cases found : network.link? link with
  | none => exact ranked.zero
  | some attributes => exact finite link attributes found

/-- The ranking of the roads is the order in which each node is to serve its links. -/
theorem prioritises_of_rankInbound {order : InboundOrder} {node : NodeId}
    {priority : List LinkId} (sound : network.Sound) (filed : network.Filed)
    (finite : network.Finite)
    (found : (Roads.rankInbound order network)[node.index]? = some priority) :
    network.Prioritises order node priority := by
  have perm := Roads.rankInbound_rel order network node
  rw [found] at perm
  generalize row : network.incoming? node = incoming at perm
  cases perm with
  | some perm =>
      refine ⟨fun link => perm.mem_iff.trans (sound.mem_incoming row),
        perm.nodup_iff.mpr (sound.nodup_incoming row), ?_, ?_⟩
      · rintro rfl
        exact filed node priority found
      · rintro rfl ranked
        have capacity := finite.capacityOf ranked
        simp only [Roads.rankInbound, Array.getElem?_map, Option.map_eq_some_iff] at found
        obtain ⟨keys, row, rfl⟩ := found
        refine (pairwise_mergeSort_of_pairwise ?_ ?_ (filed node keys row)).imp ?_
        · intro first second third
          simp only [Bool.not_eq_true', decide_eq_false_iff_not]
          exact ranked.trans (capacity _) (capacity _) (capacity _)
        · intro first second
          simp only [Bool.or_eq_true, Bool.not_eq_true', decide_eq_false_iff_not]
          exact or_iff_not_imp_left.mpr fun less =>
            ranked.asymm (capacity _) (capacity _) (not_not.mp less)
        · simp only [Bool.not_eq_true', decide_eq_false_iff_not]
          intro link other both
          exact or_iff_not_imp_left.mpr fun less => ⟨both.1, both.2 less⟩

end Network

def LinkQueue.terms (queue : LinkQueue α) : Nat × α × α × α :=
  (queue.tickSecs, queue.freeSpeed, queue.flowBudget, queue.flowCeiling)

variable [Quantity α]

def Link.terms (tickSecs : Nat) (table : ModeTable α) (link : Link α) : Nat × α × α × α :=
  let budget := link.flowCapacity * (tickSecs : α) / ((3600 : Nat) : α)
  (tickSecs, link.freeSpeed, budget, Quantity.larger budget table.maxPcu)

namespace Roads

/-- That the roads are used on the terms of a network. -/
structure Adopts (roads : Roads α) (tickSecs : Nat) (table : ModeTable α)
    (network : Network α) : Prop where
  terms : ∀ link, (roads.queue? link).map LinkQueue.terms =
    (network.link? link).map (Link.terms tickSecs table)
  inbound : roads.inbound = rankInbound roads.order network

theorem order_refresh (roads : Roads α) (link : LinkId) (network : Network α)
    (table : ModeTable α) : (roads.refresh link network table).order = roads.order := by
  unfold refresh
  dsimp only
  split <;> split <;> rfl

theorem inbound_refresh_of_order (roads : Roads α) (link : LinkId) (network : Network α)
    (table : ModeTable α) :
    (roads.refresh link network table).inbound =
      match roads.order with
      | .byKey => roads.inbound
      | .byCapacity => rankInbound .byCapacity network := by
  unfold refresh
  cases roads.queue? link <;> cases network.link? link <;> cases order : roads.order <;>
    simp only [setQueue, order]

namespace Adopts

variable {roads roads' : Roads α} {network network' : Network α} {table : ModeTable α}
  {tickSecs : Nat}

theorem of_ofNetwork {dynamics : Dynamics α}
    (opened : ofNetwork network dynamics table tickSecs = .ok roads) :
    roads.Adopts tickSecs table network := by
  constructor
  · intro link
    rw [queue?_of_ofNetwork opened, Option.map_map]
    rfl
  · obtain ⟨-, rfl⟩ := ofNetwork_eq_ok.mp opened
    rfl

theorem refresh (adopts : roads.Adopts tickSecs table network) {change : NetworkChange α}
    (applied : network.apply change = .ok network') :
    (roads.refresh change.link network' table).Adopts tickSecs table network' := by
  constructor
  · refine map_queue?_refresh applied table adopts.terms fun queue attributes same => ?_
    have tickSecs : queue.tickSecs = tickSecs := congrArg Prod.fst same
    simp only [LinkQueue.terms, Link.terms, LinkQueue.refresh, LinkQueue.setFlow, tickSecs]
  · rw [order_refresh, inbound_refresh_of_order, adopts.inbound]
    cases roads.order with
    | byKey => exact (Network.alike_apply applied).incoming.symm
    | byCapacity => rfl

theorem refill (adopts : roads.Adopts tickSecs table network) :
    roads.refill.Adopts tickSecs table network := by
  refine ⟨fun link => ?_, adopts.inbound⟩
  rw [← adopts.terms link]
  simp only [queue?, Roads.refill, Array.getElem?_map, Option.map_map]
  rfl

theorem congr (adopts : roads.Adopts tickSecs table network)
    (terms : roads'.queues.map LinkQueue.terms = roads.queues.map LinkQueue.terms)
    (inbound : roads'.inbound = roads.inbound) (order : roads'.order = roads.order) :
    roads'.Adopts tickSecs table network := by
  constructor
  · intro link
    rw [← adopts.terms link, queue?, queue?, ← Array.getElem?_map, ← Array.getElem?_map, terms]
  · rw [inbound, order, adopts.inbound]

end Adopts

end Roads

end MixedTraffic

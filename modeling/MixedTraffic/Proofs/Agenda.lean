import Mathlib.Data.List.Basic
import Mathlib.Order.Lattice
import Mathlib.Order.Nat
import MixedTraffic.Proofs.Calendar
import MixedTraffic.Proofs.Population

namespace MixedTraffic

/-! In which order a calendar gives out its entries: by the intervals in which they are due, and
by their keys among those of one interval, however often they have been entered anew. -/

/-- The interval in which an agent is to depart. -/
def Population.dueAt (population : Population) (clock : Clock) (id : AgentId) : Tick :=
  (population.get? id).elim 0 fun agent => clock.tickAtOrAfter agent.departureSecs

namespace Calendar

/-- Whether an agent is due before another: in an earlier interval, or by its key. -/
def Before (due : AgentId → Tick) (id other : AgentId) : Prop :=
  due id < due other ∨ due id = due other ∧ id.index < other.index

variable {due : AgentId → Tick} {id other : AgentId}

section Slots

variable {tick now : Tick} {change : List AgentId → List AgentId}
  {slots : List (Tick × List AgentId)}

theorem mem_updateSlot {slot : Tick × List AgentId}
    (member : slot ∈ updateSlot tick change slots) :
    slot ∈ slots ∨ ∃ agents, (agents = [] ∨ (tick, agents) ∈ slots) ∧
      slot = (tick, change agents) := by
  induction slots with
  | nil => exact .inr ⟨[], .inl rfl, List.mem_singleton.mp member⟩
  | cons first rest ih =>
      obtain ⟨time, agents⟩ := first
      unfold updateSlot at member
      split at member
      next =>
        obtain rfl | listed := List.mem_cons.mp member
        · exact .inr ⟨[], .inl rfl, rfl⟩
        · exact .inl listed
      next =>
        split at member
        next same =>
          obtain rfl | listed := List.mem_cons.mp member
          · exact .inr ⟨agents, .inr (same ▸ List.mem_cons_self), same ▸ rfl⟩
          · exact .inl (List.mem_cons_of_mem _ listed)
        next =>
          obtain rfl | listed := List.mem_cons.mp member
          · exact .inl List.mem_cons_self
          · obtain old | ⟨others, known, new⟩ := ih listed
            · exact .inl (List.mem_cons_of_mem _ old)
            · exact .inr ⟨others, known.imp_right (List.mem_cons_of_mem _), new⟩

theorem pairwise_updateSlot (ascending : slots.Pairwise (·.1 < ·.1)) :
    (updateSlot tick change slots).Pairwise (·.1 < ·.1) := by
  induction slots with
  | nil => exact List.pairwise_singleton ..
  | cons first rest ih =>
      obtain ⟨time, agents⟩ := first
      obtain ⟨earlier, others⟩ := List.pairwise_cons.mp ascending
      unfold updateSlot
      split
      next less =>
        refine List.pairwise_cons.mpr ⟨List.forall_mem_cons.mpr ⟨less, ?_⟩, ascending⟩
        exact fun slot listed => less.trans (earlier slot listed)
      next least =>
        split
        next => exact List.pairwise_cons.mpr ⟨earlier, others⟩
        next different =>
          refine List.pairwise_cons.mpr ⟨fun slot listed => ?_, ih others⟩
          obtain old | ⟨_, -, rfl⟩ := mem_updateSlot listed
          · exact earlier slot old
          · exact lt_of_le_of_ne (not_lt.mp least) (Ne.symm different)

theorem lt_of_mem_dropWhile (ascending : slots.Pairwise (·.1 < ·.1)) :
    ∀ slot ∈ slots.dropWhile (fun slot => decide (slot.1 ≤ now)), now < slot.1 := by
  induction slots with
  | nil => exact List.forall_mem_nil _
  | cons first rest ih =>
      obtain ⟨earlier, others⟩ := List.pairwise_cons.mp ascending
      rw [List.dropWhile_cons]
      split
      next => exact ih others
      next late =>
        have later : now < first.1 := not_le.mp fun reached => late (decide_eq_true reached)
        exact List.forall_mem_cons.mpr
          ⟨later, fun slot listed => later.trans (earlier slot listed)⟩

end Slots

/-- That a calendar keeps its entries in order: each in the slot of the interval in which it is
due, or in that of the present one if it is overdue. -/
structure Keeps (calendar : Calendar) (due : AgentId → Tick) (now : Tick) : Prop where
  ascending : calendar.slots.Pairwise (·.1 < ·.1)
  timed : ∀ slot ∈ calendar.slots, ∀ id ∈ slot.2, slot.1 = max now (due id)
  ordered : ∀ slot ∈ calendar.slots, slot.2.Pairwise (Before due)

namespace Keeps

variable {calendar : Calendar} {now : Tick}

theorem pairwise (keeps : calendar.Keeps due now) : calendar.entries.Pairwise (Before due) := by
  refine List.pairwise_flatMap.mpr ⟨keeps.ordered, ?_⟩
  apply keeps.ascending.imp_of_mem
  intro slot later listed listed' less id member other member'
  have time := keeps.timed slot listed id member
  have time' := keeps.timed later listed' other member'
  left
  grind

theorem updateSlot (keeps : calendar.Keeps due now) {tick : Tick} {size : Nat}
    {change : List AgentId → List AgentId}
    (timed : ∀ agents, (agents = [] ∨ (tick, agents) ∈ calendar.slots) →
      ∀ id ∈ change agents, tick = max now (due id))
    (ordered : ∀ agents, (agents = [] ∨ (tick, agents) ∈ calendar.slots) →
      (change agents).Pairwise (Before due)) :
    Keeps { slots := Calendar.updateSlot tick change calendar.slots, size } due now where
  ascending := pairwise_updateSlot keeps.ascending
  timed slot member := by
    obtain old | ⟨agents, known, rfl⟩ := mem_updateSlot member
    · exact keeps.timed slot old
    · exact timed agents known
  ordered slot member := by
    obtain old | ⟨agents, known, rfl⟩ := mem_updateSlot member
    · exact keeps.ordered slot old
    · exact ordered agents known

theorem push (keeps : calendar.Keeps due 0) (last : ∀ other ∈ calendar.entries,
    other.index < id.index) : (calendar.push (due id) id).Keeps due 0 := by
  have here {agents : List AgentId}
      (known : agents = [] ∨ (due id, agents) ∈ calendar.slots) :
      ∀ other ∈ agents, due id = due other ∧ other.index < id.index := by
    obtain rfl | listed := known
    · exact List.forall_mem_nil _
    · intro other member
      have time := keeps.timed _ listed other member
      rw [Nat.zero_max] at time
      exact ⟨time, last other (List.mem_flatMap.mpr ⟨_, listed, member⟩)⟩
  refine keeps.updateSlot (fun agents known other member => ?_) fun agents known => ?_
  · rw [Nat.zero_max]
    obtain member | member := List.mem_append.mp member
    · exact (here known other member).1
    · rw [List.mem_singleton.mp member]
  · refine List.pairwise_append.mpr ⟨?_, List.pairwise_singleton .., ?_⟩
    · obtain rfl | listed := known
      · exact .nil
      · exact keeps.ordered _ listed
    · intro other member new single
      rw [List.mem_singleton.mp single]
      exact .inr ⟨(here known other member).1.symm, (here known other member).2⟩

theorem mem_drain (keeps : calendar.Keeps due now) :
    id ∈ (calendar.drain now).1 ↔ id ∈ calendar.entries ∧ due id ≤ now := by
  constructor
  · intro member
    refine ⟨calendar.drain_append now ▸ List.mem_append_left _ member, ?_⟩
    obtain ⟨slot, leading, member⟩ := List.mem_flatMap.mp member
    have time := keeps.timed slot ((List.takeWhile_prefix _).subset leading) id member
    have reached := of_decide_eq_true (List.all_eq_true.mp List.all_takeWhile slot leading)
    grind
  · intro both
    obtain ⟨listed, reached⟩ := both
    rw [← calendar.drain_append now] at listed
    obtain gone | left := List.mem_append.mp listed
    · exact gone
    · obtain ⟨slot, trailing, member⟩ := List.mem_flatMap.mp left
      have time := keeps.timed slot ((List.dropWhile_suffix _).subset trailing) id member
      have later := lt_of_mem_dropWhile keeps.ascending slot trailing
      grind

theorem pairwise_drain (keeps : calendar.Keeps due now) :
    (calendar.drain now).1.Pairwise (Before due) := by
  have ordered := keeps.pairwise
  rw [← calendar.drain_append now] at ordered
  exact (List.pairwise_append.mp ordered).1

theorem later (keeps : calendar.Keeps due now) {slot : Tick × List AgentId}
    (trailing : slot ∈ (calendar.drain now).2.slots) (member : id ∈ slot.2) :
    slot.1 = due id ∧ now < due id := by
  have time := keeps.timed slot ((List.dropWhile_suffix _).subset trailing) id member
  have late := lt_of_mem_dropWhile keeps.ascending slot trailing
  grind

/-- What is left for the next interval is in order if those that try again come first. -/
theorem advance (keeps : calendar.Keeps due now) {again : List AgentId}
    (ordered : again.Pairwise (Before due)) (overdue : ∀ id ∈ again, due id ≤ now) :
    ((calendar.drain now).2.requeue (now + 1) again).Keeps due (now + 1) := by
  have rest : (calendar.drain now).2.Keeps due (now + 1) := by
    refine ⟨keeps.ascending.sublist (List.dropWhile_sublist _), fun slot trailing id member => ?_,
      fun slot trailing => keeps.ordered slot ((List.dropWhile_suffix _).subset trailing)⟩
    obtain ⟨time, late⟩ := keeps.later trailing member
    exact time.trans (max_eq_right late).symm
  unfold requeue
  split
  next => exact rest
  next =>
    have here {agents : List AgentId}
        (known : agents = [] ∨ (now + 1, agents) ∈ (calendar.drain now).2.slots) :
        agents.Pairwise (Before due) ∧ ∀ id ∈ agents, now + 1 = due id := by
      obtain rfl | listed := known
      · exact ⟨.nil, List.forall_mem_nil _⟩
      · exact ⟨rest.ordered _ listed, fun id member => (keeps.later listed member).1⟩
    refine rest.updateSlot (fun agents known id member => ?_) fun agents known => ?_
    · obtain member | member := List.mem_append.mp member
      · exact (max_eq_left (Nat.le_succ_of_le (overdue id member))).symm
      · rw [← (here known).2 id member, max_self]
    · refine List.pairwise_append.mpr ⟨ordered, (here known).1, fun id member other listed => ?_⟩
      left
      rw [← (here known).2 other listed]
      exact Nat.lt_succ_of_le (overdue id member)

/-- The calendar of a population has every agent in the interval in which it is to depart. -/
theorem ofPopulation {population : Population} (fresh : population.Fresh) (clock : Clock) :
    (ofPopulation population clock).Keeps (population.dueAt clock) 0 := by
  have filled (agents : List Agent) (calendar : Calendar)
      (keeps : calendar.Keeps (population.dueAt clock) 0)
      (ascending : agents.Pairwise (·.id.index < ·.id.index))
      (last : ∀ agent ∈ agents, ∀ id ∈ calendar.entries, id.index < agent.id.index)
      (timed : ∀ agent ∈ agents,
        population.dueAt clock agent.id = clock.tickAtOrAfter agent.departureSecs) :
      (agents.foldl (fun calendar agent =>
        calendar.push (clock.tickAtOrAfter agent.departureSecs) agent.id)
          calendar).Keeps (population.dueAt clock) 0 := by
    induction agents generalizing calendar with
    | nil => exact keeps
    | cons agent rest ih =>
        obtain ⟨first, others⟩ := List.pairwise_cons.mp ascending
        obtain ⟨behind, lasts⟩ := List.forall_mem_cons.mp last
        obtain ⟨time, times⟩ := List.forall_mem_cons.mp timed
        have pushed := keeps.push behind
        rw [time] at pushed
        refine ih _ pushed others (fun later listed id member => ?_) times
        obtain rfl | member := List.mem_cons.mp ((push_perm ..).mem_iff.mp member)
        · exact first later listed
        · exact lasts later listed id member
  unfold Calendar.ofPopulation
  rw [← Array.foldl_toList]
  refine filled _ {} ⟨.nil, List.forall_mem_nil _, List.forall_mem_nil _⟩ ?_
    (fun _ _ => List.forall_mem_nil _) fun agent listed => ?_
  · have keys : (population.agents.toList.map (·.id)).Pairwise (·.index < ·.index) := by
      rw [fresh.map_id, List.pairwise_map]
      exact List.pairwise_lt_range
    rw [List.pairwise_map] at keys
    exact keys
  · obtain ⟨index, found⟩ := List.mem_iff_getElem?.mp listed
    rw [Array.getElem?_toList] at found
    have own : population.get? ⟨index⟩ = some agent := found
    rw [Population.dueAt, (fresh own).1, own, Option.elim_some]

end Keeps

end Calendar

end MixedTraffic

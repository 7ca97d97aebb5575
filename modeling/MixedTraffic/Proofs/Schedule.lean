import Mathlib.Data.List.DropRight
import MixedTraffic.Proofs.Agenda
import MixedTraffic.Proofs.Lists

namespace MixedTraffic

/-! A calendar is used like a plain list of bookings. Agents are booked behind all others or
ahead of them, whatever the interval, and the list is sorted by interval only when it is read.
Nobody is given out for the last interval that can be counted, since the calendar would have to
be split at the one after it. -/

/-- Agents with the intervals in which they are due, in the order in which they are to come
among those of one interval. -/
abbrev Bookings := List (Tick × AgentId)

namespace Bookings

def agentsAt (bookings : Bookings) (tick : Tick) : List AgentId :=
  (bookings.filter (·.1 == tick)).map (·.2)

/-- The bookings by interval. Those of one interval keep their order. -/
def byTick (bookings : Bookings) : Bookings :=
  bookings.mergeSort fun entry later => decide (entry.1 ≤ later.1)

variable {bookings bookings' : Bookings} {tick : Tick} {id : AgentId}

theorem mem_agentsAt : id ∈ bookings.agentsAt tick ↔ (tick, id) ∈ bookings := by
  simp [agentsAt]

theorem agentsAt_cons (entry : Tick × AgentId) (rest : Bookings) (tick : Tick) :
    agentsAt (entry :: rest) tick =
      (if entry.1 = tick then [entry.2] else []) ++ rest.agentsAt tick := by
  unfold agentsAt
  by_cases same : entry.1 = tick <;> simp [same]

theorem agentsAt_append (bookings bookings' : Bookings) (tick : Tick) :
    agentsAt (bookings ++ bookings') tick =
      bookings.agentsAt tick ++ bookings'.agentsAt tick := by
  unfold agentsAt
  rw [List.filter_append, List.map_append]

theorem agentsAt_map (agents : List AgentId) (time tick : Tick) :
    agentsAt (agents.map (time, ·)) tick = if time = tick then agents else [] := by
  induction agents with
  | nil => simp [agentsAt]
  | cons id rest ih =>
      rw [List.map_cons, agentsAt_cons, ih]
      split <;> rfl

theorem agentsAt_filter (bookings : Bookings) (holds : Tick → Bool) (tick : Tick) :
    agentsAt (bookings.filter (holds ·.1)) tick =
      if holds tick then bookings.agentsAt tick else [] := by
  induction bookings with
  | nil => simp [agentsAt]
  | cons entry rest ih =>
      rw [List.filter_cons, agentsAt_cons]
      by_cases same : entry.1 = tick
      · subst same
        cases reached : holds entry.1 <;> simp [agentsAt_cons, ih, reached]
      · split <;> simp [agentsAt_cons, same, ih]

theorem perm_byTick (bookings : Bookings) : bookings.byTick.Perm bookings :=
  List.mergeSort_perm ..

theorem pairwise_byTick (bookings : Bookings) : bookings.byTick.Pairwise (·.1 ≤ ·.1) := by
  apply (List.pairwise_mergeSort ?_ ?_ bookings).imp of_decide_eq_true
  · intro first second third
    simp only [decide_eq_true_eq]
    exact le_trans
  · intro first second
    simp only [Bool.or_eq_true, decide_eq_true_eq]
    exact le_total ..

/-- To sort the bookings by interval is to change no order within an interval. -/
theorem agentsAt_byTick (bookings : Bookings) (tick : Tick) :
    bookings.byTick.agentsAt tick = bookings.agentsAt tick := by
  have kept : (bookings.filter (·.1 == tick)).Sublist bookings.byTick := by
    apply List.sublist_mergeSort _ _ _ List.filter_sublist
    · intro first second third
      simp only [decide_eq_true_eq]
      exact le_trans
    · intro first second
      simp only [Bool.or_eq_true, decide_eq_true_eq]
      exact le_total ..
    · apply List.pairwise_of_forall_mem_list
      intro entry listed later listed'
      have time := (List.mem_filter.mp listed).2
      have time' := (List.mem_filter.mp listed').2
      simp only [beq_iff_eq] at time time'
      simp [time, time']
  have whole := kept.filter (·.1 == tick)
  rw [List.filter_filter, List.filter_congr fun _ _ => Bool.and_self _] at whole
  have length := (bookings.perm_byTick.filter (·.1 == tick)).length_eq
  exact congrArg (List.map (·.2)) (whole.eq_of_length length.symm).symm

/-- Bookings in the order of their intervals are known from the agents of each interval. -/
theorem eq_of_agentsAt (sorted : bookings.Pairwise (·.1 ≤ ·.1))
    (sorted' : bookings'.Pairwise (·.1 ≤ ·.1))
    (same : ∀ tick, bookings.agentsAt tick = bookings'.agentsAt tick) : bookings = bookings' := by
  have member {entry : Tick × AgentId} : entry ∈ bookings ↔ entry ∈ bookings' := by
    obtain ⟨tick, id⟩ := entry
    rw [← mem_agentsAt, same, mem_agentsAt]
  induction bookings generalizing bookings' with
  | nil =>
      cases bookings' with
      | nil => rfl
      | cons entry rest => exact absurd (member.mpr List.mem_cons_self) List.not_mem_nil
  | cons entry rest ih =>
      cases bookings' with
      | nil => exact absurd (member.mp List.mem_cons_self) List.not_mem_nil
      | cons entry' rest' =>
          obtain ⟨first, others⟩ := List.pairwise_cons.mp sorted
          obtain ⟨first', others'⟩ := List.pairwise_cons.mp sorted'
          have time : entry.1 = entry'.1 := by
            apply le_antisymm
            · rcases List.mem_cons.mp (member.mpr List.mem_cons_self) with rfl | listed
              · exact le_rfl
              · exact first entry' listed
            · rcases List.mem_cons.mp (member.mp List.mem_cons_self) with rfl | listed
              · exact le_rfl
              · exact first' entry listed
          have heads := same entry.1
          rw [agentsAt_cons, agentsAt_cons, if_pos rfl, if_pos time.symm] at heads
          have equal : entry = entry' := Prod.ext time (List.cons.inj heads).1
          subst equal
          apply congrArg (entry :: ·)
          have tails (tick : Tick) : agentsAt rest tick = agentsAt rest' tick := by
            have both := same tick
            rw [agentsAt_cons, agentsAt_cons] at both
            exact List.append_cancel_left both
          apply ih others others' tails
          intro other
          obtain ⟨tick, id⟩ := other
          rw [← mem_agentsAt, tails, mem_agentsAt]

theorem filter_byTick (bookings : Bookings) (holds : Tick → Bool) :
    bookings.byTick.filter (holds ·.1) = byTick (bookings.filter (holds ·.1)) := by
  apply eq_of_agentsAt
  · exact bookings.pairwise_byTick.sublist List.filter_sublist
  · exact pairwise_byTick _
  · intro tick
    rw [agentsAt_filter, agentsAt_byTick, agentsAt_byTick, agentsAt_filter]

end Bookings

namespace Calendar

inductive Use where
  | push (tick : Tick) (agent : AgentId)
  | requeue (tick : Tick) (agents : List AgentId)
  | drain (tick : Tick)

namespace Use

def entered : Use → List AgentId
  | push _ agent => [agent]
  | requeue _ agents => agents
  | drain _ => []

/-- The agents that are entered ahead of all others that are due in an interval. -/
def ahead (tick : Tick) : Use → List AgentId
  | requeue time agents => if time = tick then agents else []
  | _ => []

/-- The agents that are entered behind all others that are due in an interval. -/
def behind (tick : Tick) : Use → List AgentId
  | push time agent => if time = tick then [agent] else []
  | _ => []

/-- Whether the agents that are due in an interval are taken out. -/
def clears (α : Type) [Quantity α] (tick : Tick) : Use → Bool
  | drain time => (time.after? α 1).isSome && decide (tick ≤ time)
  | _ => false

end Use

/-- A use of a calendar, and the agents that it gives out. -/
def serve (α : Type) [Quantity α] (calendar : Calendar) : Use → List AgentId × Calendar
  | .push tick agent => ([], calendar.push tick agent)
  | .requeue tick agents => ([], calendar.requeue tick agents)
  | .drain tick => (calendar.drain? α tick).getD ([], calendar)

/-- The calendar after some uses. -/
def after (α : Type) [Quantity α] (calendar : Calendar) (uses : List Use) : Calendar :=
  uses.foldl (fun calendar use => (calendar.serve α use).2) calendar

def given (α : Type) [Quantity α] (calendar : Calendar) : List Use → List AgentId
  | [] => []
  | use :: rest => (calendar.serve α use).1 ++ (calendar.serve α use).2.given α rest

end Calendar

section Plain

variable (α : Type) [Quantity α]

/-- The same use of a plain list. -/
def Bookings.serve (bookings : Bookings) : Calendar.Use → Bookings
  | .push tick agent => bookings ++ [(tick, agent)]
  | .requeue tick agents => agents.map (tick, ·) ++ bookings
  | .drain tick => bookings.filter fun entry => !(Calendar.Use.drain tick).clears α entry.1

/-- The bookings that some uses leave, of none at first. -/
def Bookings.after (uses : List Calendar.Use) : Bookings := uses.foldl (serve α) []

end Plain

namespace Calendar

/-- The bookings in some slots. -/
def bookingsOf (slots : List (Tick × List AgentId)) : Bookings :=
  slots.flatMap fun slot => slot.2.map (slot.1, ·)

def bookings (calendar : Calendar) : Bookings := bookingsOf calendar.slots

section Slots

variable {slots : List (Tick × List AgentId)} {tick : Tick}
  {change : List AgentId → List AgentId}

theorem bookingsOf_cons (slot : Tick × List AgentId) (rest : List (Tick × List AgentId)) :
    bookingsOf (slot :: rest) = slot.2.map (slot.1, ·) ++ bookingsOf rest :=
  List.flatMap_cons

theorem map_bookingsOf (slots : List (Tick × List AgentId)) :
    (bookingsOf slots).map (·.2) = slots.flatMap (·.2) := by
  simp [bookingsOf, List.map_flatMap, Function.comp_def]

theorem mem_bookingsOf {entry : Tick × AgentId} (listed : entry ∈ bookingsOf slots) :
    ∃ slot ∈ slots, slot.1 = entry.1 ∧ entry.2 ∈ slot.2 := by
  obtain ⟨slot, member, inside⟩ := List.mem_flatMap.mp listed
  obtain ⟨id, booked, rfl⟩ := List.mem_map.mp inside
  exact ⟨slot, member, rfl, booked⟩

theorem pairwise_bookingsOf (ascending : slots.Pairwise (·.1 < ·.1)) :
    (bookingsOf slots).Pairwise (·.1 ≤ ·.1) := by
  apply List.pairwise_flatMap.mpr
  constructor
  · intro slot member
    apply List.pairwise_map.mpr
    exact List.pairwise_of_forall fun _ _ => le_rfl
  · apply ascending.imp
    intro slot later earlier entry listed entry' listed'
    obtain ⟨id, -, rfl⟩ := List.mem_map.mp listed
    obtain ⟨id', -, rfl⟩ := List.mem_map.mp listed'
    exact earlier.le

theorem filter_bookingsOf (slots : List (Tick × List AgentId)) (holds : Tick → Bool) :
    bookingsOf (slots.filter (holds ·.1)) = (bookingsOf slots).filter (holds ·.1) := by
  induction slots with
  | nil => rfl
  | cons slot rest ih =>
      rw [List.filter_cons, bookingsOf_cons, List.filter_append, ← ih, List.filter_map]
      cases reached : holds slot.1 with
      | true => simp [bookingsOf_cons, Function.comp_def, reached]
      | false => simp [Function.comp_def, reached]

theorem agentsAt_of_later (later : ∀ slot ∈ slots, tick < slot.1) :
    (bookingsOf slots).agentsAt tick = [] := by
  apply List.eq_nil_iff_forall_not_mem.mpr
  intro id booked
  obtain ⟨slot, member, time, -⟩ := mem_bookingsOf (Bookings.mem_agentsAt.mp booked)
  exact absurd time (later slot member).ne'

theorem agentsAt_updateSlot (ascending : slots.Pairwise (·.1 < ·.1)) (other : Tick) :
    (bookingsOf (updateSlot tick change slots)).agentsAt other =
      if tick = other then change ((bookingsOf slots).agentsAt tick)
      else (bookingsOf slots).agentsAt other := by
  induction slots with
  | nil =>
      rw [updateSlot, bookingsOf_cons, Bookings.agentsAt_append, Bookings.agentsAt_map]
      exact List.append_nil _
  | cons slot rest ih =>
      obtain ⟨time, agents⟩ := slot
      obtain ⟨earlier, others⟩ := List.pairwise_cons.mp ascending
      have rest' : (bookingsOf rest).agentsAt time = [] := agentsAt_of_later earlier
      unfold updateSlot
      split
      next less =>
        have nobody : (bookingsOf ((time, agents) :: rest)).agentsAt tick = [] := by
          apply agentsAt_of_later
          intro slot listed
          rcases List.mem_cons.mp listed with rfl | listed
          · exact less
          · exact less.trans (earlier slot listed)
        rw [bookingsOf_cons, Bookings.agentsAt_append, Bookings.agentsAt_map, nobody]
        split
        next same => rw [← same, nobody, List.append_nil]
        next => rfl
      next =>
        split
        next same =>
          subst same
          simp only [bookingsOf_cons, Bookings.agentsAt_append, Bookings.agentsAt_map, rest',
            if_true, List.append_nil]
          split
          next same => rw [← same, rest', List.append_nil]
          next => rfl
        next apart =>
          simp only [bookingsOf_cons, Bookings.agentsAt_append, Bookings.agentsAt_map,
            ih others, if_neg (Ne.symm apart), List.nil_append]
          split
          next same => rw [← same, if_neg apart, if_neg apart]
          next => rfl

end Slots

/-- That a calendar holds some bookings: in slots by interval, none of them empty, with the
agents of each interval in their order. -/
structure Files (calendar : Calendar) (bookings : Bookings) : Prop where
  ascending : calendar.slots.Pairwise (·.1 < ·.1)
  filled : ∀ slot ∈ calendar.slots, slot.2 ≠ []
  filed : ∀ tick, calendar.bookings.agentsAt tick = bookings.agentsAt tick
  sized : calendar.size = bookings.length

namespace Files

variable {calendar : Calendar} {bookings : Bookings} (files : calendar.Files bookings)
include files

theorem bookings_eq : calendar.bookings = bookings.byTick := by
  apply Bookings.eq_of_agentsAt
  · exact pairwise_bookingsOf files.ascending
  · exact bookings.pairwise_byTick
  · intro tick
    rw [files.filed, Bookings.agentsAt_byTick]

theorem leading (tick : Tick) : calendar.slots.Pairwise fun slot later =>
    decide (later.1 ≤ tick) = true → decide (slot.1 ≤ tick) = true := by
  apply files.ascending.imp
  intro slot later earlier reached
  exact decide_eq_true (earlier.le.trans (of_decide_eq_true reached))

theorem drained (tick : Tick) : (calendar.drain tick).1 =
    (Bookings.byTick (bookings.filter (·.1 ≤ tick))).map (·.2) := by
  rw [← Bookings.filter_byTick bookings (fun time => decide (time ≤ tick)), ← files.bookings_eq,
    Calendar.bookings, ← filter_bookingsOf _ (fun time => decide (time ≤ tick)),
    map_bookingsOf, ← takeWhile_eq_filter (files.leading tick)]
  rfl

theorem slots_drain (tick : Tick) :
    (calendar.drain tick).2.slots = calendar.slots.filter (tick < ·.1) := by
  change calendar.slots.dropWhile (fun slot => decide (slot.1 ≤ tick)) = _
  rw [dropWhile_eq_filter (files.leading tick)]
  apply List.filter_congr
  intro slot _
  rw [← decide_not]
  exact decide_eq_decide.mpr not_le

theorem bookings_drain (tick : Tick) : (calendar.drain tick).2.bookings =
    Bookings.byTick (bookings.filter (tick < ·.1)) := by
  rw [← Bookings.filter_byTick bookings (fun time => decide (tick < time)), ← files.bookings_eq,
    Calendar.bookings, Calendar.bookings, files.slots_drain,
    filter_bookingsOf _ (fun time => decide (tick < time))]

theorem updateSlot {tick : Tick} {size : Nat} {change : List AgentId → List AgentId}
    {later : Bookings} (fills : ∀ agents, change agents ≠ [])
    (here : later.agentsAt tick = change (bookings.agentsAt tick))
    (elsewhere : ∀ other, tick ≠ other → later.agentsAt other = bookings.agentsAt other)
    (sized : size = later.length) :
    Files { slots := Calendar.updateSlot tick change calendar.slots, size } later where
  ascending := pairwise_updateSlot files.ascending
  filled slot member := by
    obtain old | ⟨agents, -, rfl⟩ := mem_updateSlot member
    · exact files.filled slot old
    · exact fills agents
  filed other := by
    have before := files.filed
    simp only [Calendar.bookings] at before ⊢
    rw [agentsAt_updateSlot files.ascending, before, before]
    split
    next same => rw [← same, here]
    next apart => rw [elsewhere other apart]
  sized := sized

theorem push (tick : Tick) (agent : AgentId) :
    (calendar.push tick agent).Files (bookings ++ [(tick, agent)]) := by
  apply files.updateSlot
  · intro agents
    exact List.append_ne_nil_of_right_ne_nil _ (List.cons_ne_nil agent [])
  · rw [Bookings.agentsAt_append, Bookings.agentsAt_cons, if_pos rfl]
    rfl
  · intro other apart
    rw [Bookings.agentsAt_append, Bookings.agentsAt_cons, if_neg apart]
    exact List.append_nil _
  · rw [files.sized, List.length_append]
    rfl

theorem requeue (tick : Tick) (agents : List AgentId) :
    (calendar.requeue tick agents).Files (agents.map (tick, ·) ++ bookings) := by
  unfold Calendar.requeue
  split
  next nobody =>
    rw [List.isEmpty_iff.mp nobody]
    exact files
  next somebody =>
    apply files.updateSlot
    · intro others
      apply List.append_ne_nil_of_left_ne_nil
      exact mt List.isEmpty_iff.mpr somebody
    · rw [Bookings.agentsAt_append, Bookings.agentsAt_map, if_pos rfl]
    · intro other apart
      rw [Bookings.agentsAt_append, Bookings.agentsAt_map, if_neg apart]
      rfl
    · rw [files.sized, List.length_append, List.length_map]
      exact Nat.add_comm ..

theorem drain (tick : Tick) :
    (calendar.drain tick).2.Files (bookings.filter (tick < ·.1)) where
  ascending := files.slots_drain tick ▸ files.ascending.sublist List.filter_sublist
  filled slot member := by
    rw [files.slots_drain] at member
    exact files.filled slot (List.mem_of_mem_filter member)
  filed other := by rw [files.bookings_drain, Bookings.agentsAt_byTick]
  sized := by
    change calendar.size - (calendar.drain tick).1.length = _
    have parts := bookings.length_eq_length_filter_add fun entry => decide (entry.1 ≤ tick)
    simp only [← decide_not, not_le] at parts
    rw [files.drained, List.length_map, Bookings.byTick, List.length_mergeSort, files.sized]
    omega

theorem serve (α : Type) [Quantity α] (use : Use) :
    (calendar.serve α use).2.Files (bookings.serve α use) := by
  cases use with
  | push tick agent => exact files.push tick agent
  | requeue tick agents => exact files.requeue tick agents
  | drain tick =>
      rw [Calendar.serve, Bookings.serve, Calendar.drain?]
      cases counted : tick.after? α 1 with
      | none => simpa [Use.clears, counted] using files
      | some next => simpa [Use.clears, counted, ← decide_not] using files.drain tick

omit files in
theorem after (α : Type) [Quantity α] (uses : List Use) :
    (({} : Calendar).after α uses).Files (Bookings.after α uses) := by
  induction uses using List.reverseRecOn with
  | nil => exact ⟨.nil, List.forall_mem_nil _, fun _ => rfl, rfl⟩
  | append_singleton uses use ih =>
      rw [Calendar.after, Bookings.after, List.foldl_concat, List.foldl_concat]
      exact ih.serve α use

end Files

section Account

variable (α : Type) [Quantity α]

end Account

example : (({} : Calendar).after Rat [.push 4 ⟨10⟩, .requeue 4 [⟨1⟩, ⟨2⟩], .push 3 ⟨5⟩,
    .requeue 4 [⟨7⟩]]).drain? Rat 4 = some ([⟨5⟩, ⟨7⟩, ⟨1⟩, ⟨2⟩, ⟨10⟩], {}) := rfl

end Calendar

end MixedTraffic

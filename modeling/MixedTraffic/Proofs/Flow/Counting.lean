import Mathlib.Algebra.BigOperators.Group.Finset.Basic
import Mathlib.Algebra.Order.BigOperators.Group.Multiset
import MixedTraffic.Proofs.Flow.Lines
import MixedTraffic.Proofs.Run.History

namespace MixedTraffic

/-! A counter of overtakes keeps for each link the line of those who stay on it. So it counts the
overtakes of the history that it takes in, and no others. -/

variable {modes : Array ModeId} {events : List Event} {event : Event} {mode : ModeId}
  {line : List (AgentId × ModeId)}

theorem sum_ite_key {kind : Kind} {key : Key kind} {bound : Nat} (inside : key.index < bound)
    (amount : Nat) :
    ∑ index ∈ Finset.range bound, (if (⟨index⟩ : Key kind) = key then amount else 0) = amount := by
  rw [Finset.sum_eq_single_of_mem key.index (Finset.mem_range.mpr inside), if_pos rfl]
  exact fun index _ differs => if_neg fun same => differs (congrArg Key.index same)

theorem sum_count_modes {count : Nat} {others : List ModeId}
    (bounds : ∀ other ∈ others, other.index < count) :
    ∑ index ∈ Finset.range count, others.count ⟨index⟩ = others.length := by
  have injective : Function.Injective (Key.index : ModeId → Nat) :=
    fun ⟨_⟩ ⟨_⟩ same => congrArg Key.mk same
  have cards : ∑ index ∈ Finset.range count, (others.map Key.index : Multiset Nat).count index =
      (others.map Key.index : Multiset Nat).card :=
    Multiset.sum_count_eq_card fun index member => by
      obtain ⟨other, listed, rfl⟩ := List.mem_map.mp (Multiset.mem_coe.mp member)
      exact Finset.mem_range.mpr (bounds other listed)
  rw [Multiset.coe_card, List.length_map] at cards
  refine (Finset.sum_congr rfl fun index _ => ?_).trans cards
  rw [Multiset.coe_count]
  exact (List.count_map_of_injective others Key.index injective ⟨index⟩).symm

namespace OvertakeCounter

variable {α : Type} {counter counter' : OvertakeCounter α}

theorem exists_pairs_of_countPair {others : List ModeId}
    (counted : others.foldlM (countPair mode) counter = .ok counter') :
    ∃ pairs, counter' = { counter with pairs } := by
  induction others generalizing counter with
  | nil =>
      cases Attempt.pure_eq_ok.mp counted
      exact ⟨_, rfl⟩
  | cons other others ih =>
      rw [List.foldlM_cons, Attempt.bind_eq_ok] at counted
      obtain ⟨next, first, counted⟩ := counted
      unfold countPair at first
      dsimp only at first
      split at first
      next =>
        cases first
        obtain ⟨pairs, same⟩ := ih counted
        exact ⟨pairs, same⟩
      next => cases first

theorem Ready.overtaken_lt (ready : counter.Ready)
    (here : counter.onLink[event.link.index]? = some line) {other : ModeId}
    (overtaken : other ∈ event.overtaken mode line) : other.index < counter.modeCount := by
  obtain ⟨-, front, own, back, entry, rfl, -, ahead, rfl⟩ :=
    exists_split_of_mem_overtaken overtaken
  have known := ready.lined _ (Array.mem_of_getElem? here) entry (List.mem_append_left _ ahead)
  exact ready.listed entry.2 (Array.mem_of_getElem? known)

variable [Quantity α]

/-- What a counter makes of an event, besides its lines and the counts of overtakes. -/
structure Frames (counter : OvertakeCounter α) (event : Event)
    (line : List (AgentId × ModeId)) (counter' : OvertakeCounter α) : Prop where
  modeCount : counter'.modeCount = counter.modeCount
  traversals : counter'.traversals = counter.traversals +
    if event.kind = .linkLeft ∧ line.any (·.1 == event.agent) then 1 else 0

theorem frames_of_record (here : counter.onLink[event.link.index]? = some line)
    (known : counter.agentModes[event.agent.index]? = some mode)
    (recorded : counter.record event = .ok counter') : counter.Frames event line counter' := by
  by_cases left : event.kind = .linkLeft
  · unfold record at recorded
    rw [known, here] at recorded
    simp only [left] at recorded
    split at recorded
    next aboard =>
      simp only [countLeaving, Attempt.bind_eq_ok] at recorded
      obtain ⟨next, counted, recorded⟩ := recorded
      obtain ⟨pairs, rfl⟩ := exists_pairs_of_countPair counted
      cases Attempt.pure_eq_ok.mp recorded
      exact ⟨rfl, by rw [if_pos ⟨left, aboard⟩]⟩
    next absent =>
      cases recorded
      exact ⟨rfl, by rw [if_neg fun both => absent both.2]; rfl⟩
  · obtain ⟨onLink, same⟩ := counter.record_of_ne left
    cases same.symm.trans recorded
    exact ⟨rfl, by rw [if_neg fun both => left both.1]; rfl⟩

structure Told (counter : OvertakeCounter α) (modes : Array ModeId) (count links : Nat)
    (events : List Event) : Prop where
  ready : counter.Ready
  agentModes : counter.agentModes = modes
  modeCount : counter.modeCount = count
  lines : ∀ link : LinkId, link.index < links →
    ∃ line, counter.onLink[link.index]? = some line ∧ Lines (stayOf events) modes link line
  pair : ∀ first second, (overtakes modes events fun _ overtaker overtaken =>
    overtaker = first ∧ overtaken = second).encard = counter.pair first second
  countOn : ∀ link, (overtakes modes events fun other _ _ => other = link).encard =
    counter.countOn link
  total : (overtakes modes events fun _ _ _ => True).encard = counter.total
  sumLinks : ∑ index ∈ Finset.range links, counter.countOn ⟨index⟩ = counter.total
  sumPairs : ∑ first ∈ Finset.range count, ∑ second ∈ Finset.range count,
    counter.pair ⟨first⟩ ⟨second⟩ = counter.total
  traversals : counter.traversals = events.countP (·.kind = .linkLeft)

namespace Told

variable {count links : Nat}

theorem record (told : counter.Told modes count links events)
    (agent : event.agent.index < modes.size) (link : event.link.index < links)
    (fits : event.Fits (stayOf events event.agent)) :
    ∃ counter', counter.record event = .ok counter' ∧
      counter'.Told modes count links (events ++ [event]) := by
  obtain ⟨line, here, lines⟩ := told.lines event.link link
  obtain ⟨mode, own⟩ : ∃ mode, modes[event.agent.index]? = some mode :=
    ⟨_, Array.getElem?_eq_getElem agent⟩
  have known : counter.agentModes[event.agent.index]? = some mode := told.agentModes.symm ▸ own
  obtain ⟨counter', recorded, counts⟩ := told.ready.record_eq_ok known here
  obtain ⟨modeCount, traversals⟩ := frames_of_record here known recorded
  have more (among : LinkId → ModeId → ModeId → Prop)
      [DecidablePred (among event.link mode)] :=
    (encard_overtakes_append modes events event among).trans
      (congrArg _ (lines.encard_overtakenBy fits own among))
  refine ⟨counter', recorded, counts.ready, counts.agentModes.trans told.agentModes,
    modeCount.trans told.modeCount, fun other bound => ?_, fun first second => ?_, fun other => ?_,
    ?_, ?_, ?_, ?_⟩
  · rw [counts.onLink]
    split
    next same => exact ⟨_, rfl, same ▸ lines.append fits own⟩
    next differs =>
      obtain ⟨theirs, found, others⟩ := told.lines other bound
      exact ⟨theirs, found, others.append_of_ne fits differs⟩
  · rw [more, told.pair, counts.pair]
    by_cases ours : mode = first
    · simp [ours, List.count, beq_eq_decide]
    · simp [ours, Ne.symm ours]
  · rw [more, told.countOn, counts.countOn]
    by_cases same : event.link = other
    · simp [same]
    · simp [same, Ne.symm same]
  · rw [more, told.total, counts.total]
    simp
  · simp only [counts.countOn, counts.total, Finset.sum_add_distrib, told.sumLinks]
    rw [sum_ite_key link]
  · simp only [counts.pair, counts.total, Finset.sum_add_distrib, told.sumPairs,
      Finset.sum_ite_irrel, Finset.sum_const_zero]
    rw [sum_ite_key (told.modeCount ▸ told.ready.listed mode (Array.mem_of_getElem? known)),
      sum_count_modes fun other => told.modeCount ▸ told.ready.overtaken_lt here]
  · rw [traversals, told.traversals, List.countP_append, List.countP_singleton]
    refine congrArg _ (if_congr ?_ rfl rfl)
    rw [decide_eq_true_iff, and_iff_left_iff_imp, List.any_eq_true]
    intro left
    obtain ⟨stay, stays, there⟩ := fits.of_left left
    exact ⟨_, (lines.mem_iff (event.agent, mode)).mpr ⟨own, stay, stays, there⟩, beq_self_eq_true _⟩

theorem of_new (network : Network α) {modes : Array ModeId} {count : Nat} (measured : Option α)
    (listed : ∀ mode ∈ modes, mode.index < count) :
    (new network count modes measured).Told modes count network.links.size [] := by
  have empty := explained_new network count modes measured fun _ _ _ => False
  have pair (first second : ModeId) : (new network count modes measured).pair first second = 0 :=
    Nat.eq_zero_of_not_pos fun counted => (empty.pair first second counted).elim fun _ => id
  have countOn (link : LinkId) : (new network count modes measured).countOn link = 0 :=
    Nat.eq_zero_of_not_pos fun counted =>
      (empty.countOn link counted).elim fun _ other => other.elim fun _ => id
  refine ⟨⟨?_, listed, ?_, ?_⟩, rfl, rfl, fun link bound => ⟨[], ?_, ?_, ?_⟩,
    fun first second => ?_, fun link => ?_, ?_, ?_, ?_, rfl⟩
  · exact Array.size_replicate
  · intro line lined entry member
    obtain ⟨_, -, rfl⟩ := Array.mem_map.mp lined
    cases member
  · exact Array.size_map.trans Array.size_map.symm
  · simp [new, bound]
  · simp [stayOf_nil]
  · exact .nil
  · rw [overtakes_nil, Set.encard_empty, pair]
    rfl
  · rw [overtakes_nil, Set.encard_empty, countOn]
    rfl
  · rw [overtakes_nil, Set.encard_empty]
    rfl
  · exact Finset.sum_eq_zero fun index _ => countOn ⟨index⟩
  · exact Finset.sum_eq_zero fun first _ => Finset.sum_eq_zero fun second _ => pair ⟨first⟩ ⟨second⟩

theorem recordAll {counter : OvertakeCounter α} (told : counter.Told modes count links [])
    (known : ∀ event ∈ events, event.agent.index < modes.size ∧ event.link.index < links)
    (coherent : Coherent events) :
    ∃ counter', counter.recordAll events = .ok counter' ∧
      counter'.Told modes count links events := by
  induction events using List.reverseRecOn with
  | nil => exact ⟨counter, rfl, told⟩
  | append_singleton events event ih =>
      obtain ⟨known, last⟩ := List.forall_mem_append.mp known
      obtain ⟨agent, link⟩ := List.forall_mem_singleton.mp last
      obtain ⟨coherent, fits⟩ := Coherent.append_iff.mp coherent
      obtain ⟨reached, done, told⟩ := ih known coherent
      obtain ⟨counter', recorded, told⟩ := told.record agent link fits
      refine ⟨counter', ?_, told⟩
      rw [OvertakeCounter.recordAll, List.foldlM_append, Attempt.bind_eq_ok]
      exact ⟨reached, done, by simpa using recorded⟩

end Told

/-- A counter that takes in a history counts exactly its overtakes, by pair of modes and by link,
and the vehicles that left a link. -/
theorem recordAll_counts_overtakes (network : Network α) (count : Nat) (modes : Array ModeId)
    (measured : Option α) {events : List Event} (listed : ∀ mode ∈ modes, mode.index < count)
    (known : ∀ event ∈ events,
      event.agent.index < modes.size ∧ event.link.index < network.links.size)
    (coherent : Coherent events) :
    ∃ counter, (new network count modes measured).recordAll events = .ok counter ∧
      (∀ first second, (overtakes modes events fun _ overtaker overtaken =>
        overtaker = first ∧ overtaken = second).encard = counter.pair first second) ∧
      (∀ mode, counter.pair mode mode = 0) ∧
      (∀ link, (overtakes modes events fun other _ _ => other = link).encard =
        counter.countOn link) ∧
      (overtakes modes events fun _ _ _ => True).encard = counter.total ∧
      ∑ index ∈ Finset.range network.links.size, counter.countOn ⟨index⟩ = counter.total ∧
      ∑ first ∈ Finset.range count, ∑ second ∈ Finset.range count,
        counter.pair ⟨first⟩ ⟨second⟩ = counter.total ∧
      counter.traversals = events.countP (·.kind = .linkLeft) := by
  obtain ⟨counter, done, told⟩ := (Told.of_new network measured listed).recordAll known coherent
  refine ⟨counter, done, told.pair, fun mode => ?_, told.countOn, told.total, told.sumLinks,
    told.sumPairs, told.traversals⟩
  have nobody : (overtakes modes events fun _ overtaker overtaken =>
      overtaker = mode ∧ overtaken = mode) = ∅ := by
    refine Set.eq_empty_iff_forall_notMem.mpr ?_
    rintro _ ⟨_, _, _, -, overtake, rfl, rfl⟩
    exact overtake.apart rfl
  have counted := told.pair mode mode
  rw [nobody, Set.encard_empty] at counted
  exact Nat.cast_eq_zero.mp counted.symm

end OvertakeCounter

/-- A narrow vehicle overtakes a wide one, but not the one that has been stuck, and is overtaken by
the wide one on the next link. -/
def Bottleneck.passing : List Event :=
  [⟨0, .departed, ⟨0⟩, entry⟩, ⟨0, .linkEntered, ⟨0⟩, entry⟩, ⟨0, .linkEntered, ⟨1⟩, entry⟩,
    ⟨0, .linkEntered, ⟨2⟩, entry⟩, ⟨1, .stuck, ⟨0⟩, entry⟩, ⟨1, .linkLeft, ⟨2⟩, entry⟩,
    ⟨1, .linkEntered, ⟨2⟩, exit⟩, ⟨2, .linkLeft, ⟨1⟩, entry⟩, ⟨2, .linkEntered, ⟨1⟩, exit⟩,
    ⟨3, .linkLeft, ⟨1⟩, exit⟩, ⟨3, .arrived, ⟨1⟩, exit⟩]

theorem Bottleneck.recordAll_counts_overtakes_of_three :
    ∃ network counter, draft.build = .ok network ∧ Coherent passing ∧
      (OvertakeCounter.new network 2 #[wide, wide, narrow] none).recordAll passing = .ok counter ∧
      (overtakes #[wide, wide, narrow] passing fun _ overtaker overtaken =>
        overtaker = narrow ∧ overtaken = wide).encard = 1 ∧
      (overtakes #[wide, wide, narrow] passing fun link _ _ => link = exit).encard = 1 ∧
      counter.total = 2 ∧ ∑ index ∈ Finset.range 2, counter.countOn ⟨index⟩ = 2 ∧
      passing.countP (·.kind = .linkLeft) = 3 := by
  have ran : (draft.build.toOption.bind fun network =>
      ((OvertakeCounter.new network 2 #[wide, wide, narrow] none).recordAll passing).toOption.map
        fun counter => (network.links.size, counter.pair narrow wide, counter.countOn exit,
          counter.total, counter.traversals)) = some (2, 1, 1, 2, 3) := by decide +kernel
  simp only [Option.bind_eq_some_iff, Option.map_eq_some_iff, Attempt.toOption_eq_some,
    Prod.mk.injEq] at ran
  obtain ⟨network, connected, counter, done, size, pair, countOn, total, traversals⟩ := ran
  have coherent : Coherent passing := by decide
  obtain ⟨counter', done', pairs, -, links, -, sum, -, left⟩ :=
    OvertakeCounter.recordAll_counts_overtakes network 2 #[wide, wide, narrow] none
      (by decide) (by rw [size]; decide) coherent
  cases done.symm.trans done'
  rw [size, total] at sum
  exact ⟨network, counter, connected, coherent, done, (pairs narrow wide).trans (pair ▸ rfl),
    (links exit).trans (countOn ▸ rfl), total, sum, left.symm.trans traversals⟩

end MixedTraffic

import Mathlib.Data.List.Dedup
import MixedTraffic.Flow.Overtakes
import MixedTraffic.Proofs.Attempt

namespace MixedTraffic

/-! What an event makes of a counter of overtakes: of the lines that it keeps of the vehicles on
each link, and of its counts. -/

/-- The line of vehicles on a link after one more event of the link, of an agent of a mode. -/
def Event.line (event : Event) (mode : ModeId) (line : List (AgentId × ModeId)) :
    List (AgentId × ModeId) :=
  match event.kind with
  | .linkEntered => line ++ [(event.agent, mode)]
  | .linkLeft => line.eraseP (·.1 == event.agent)
  | .stuck => line.filter (·.1 != event.agent)
  | .departed | .arrived => line

def Event.lineOn (link : LinkId) (mode : ModeId) (line : List (AgentId × ModeId))
    (event : Event) : List (AgentId × ModeId) :=
  if event.link = link then event.line mode line else line

/-- The modes of those whom the agent of an event overtakes: they stand ahead of it in the line
of the link that it leaves. -/
def Event.overtaken (event : Event) (mode : ModeId) (line : List (AgentId × ModeId)) :
    List ModeId :=
  if event.kind = .linkLeft ∧ line.any (·.1 == event.agent) then
    ((line.takeWhile (·.1 != event.agent)).map (·.2)).filter (· != mode)
  else []

namespace OvertakeCounter

variable {α : Type} {counter counter' : OvertakeCounter α} {event : Event} {mode : ModeId}
  {line : List (AgentId × ModeId)}

/-- That a counter has a place for each pair of modes and a count for each link, and takes every
agent to have its mode. -/
structure Ready (counter : OvertakeCounter α) : Prop where
  square : counter.pairs.size = counter.modeCount * counter.modeCount
  listed : ∀ mode ∈ counter.agentModes, mode.index < counter.modeCount
  lined : ∀ line ∈ counter.onLink, ∀ entry ∈ line,
    counter.agentModes[entry.1.index]? = some entry.2
  perLink : counter.perLink.size = counter.onLink.size

section Pairs

variable {first second other another : ModeId} {count : Nat}

theorem cell_lt (bound : first.index < count) (bound' : second.index < count) :
    first.index * count + second.index < count * count := by
  calc first.index * count + second.index < first.index * count + count :=
        Nat.add_lt_add_left bound' _
    _ = (first.index + 1) * count := (Nat.succ_mul ..).symm
    _ ≤ count * count := Nat.mul_le_mul_right _ bound

theorem cell_inj (bound : second.index < count) (bound' : another.index < count) :
    first.index * count + second.index = other.index * count + another.index ↔
      first = other ∧ second = another := by
  constructor
  · intro same
    have column := congrArg (· % count) same
    simp only [Nat.mul_add_mod', Nat.mod_eq_of_lt bound, Nat.mod_eq_of_lt bound'] at column
    rw [column, Nat.add_right_cancel_iff] at same
    have row := Nat.eq_of_mul_eq_mul_right (Nat.zero_lt_of_lt bound) same
    cases first
    cases second
    exact ⟨congrArg Key.mk row, congrArg Key.mk column⟩
  · rintro ⟨rfl, rfl⟩
    rfl

theorem pair_modify (square : counter.pairs.size = counter.modeCount * counter.modeCount)
    (bound : mode.index < counter.modeCount) (bound' : other.index < counter.modeCount) :
    ({ counter with
        pairs := counter.pairs.modify
          (mode.index * counter.modeCount + other.index) (· + 1) } : OvertakeCounter α).pair
        first second =
      counter.pair first second + if first = mode ∧ second = other then 1 else 0 := by
  unfold pair
  dsimp only
  split
  next inside =>
    have cell := square ▸ cell_lt inside.1 inside.2
    have same : mode.index * counter.modeCount + other.index =
        first.index * counter.modeCount + second.index ↔ first = mode ∧ second = other :=
      (cell_inj bound' inside.2).trans (and_congr eq_comm eq_comm)
    rw [Array.getElem?_modify, Array.getElem?_eq_getElem cell]
    by_cases own : first = mode ∧ second = other
    · simp [own]
    · simp [same, own]
  next outside =>
    rw [if_neg]
    rintro ⟨rfl, rfl⟩
    exact outside ⟨bound, bound'⟩

/-- Any number of overtakes by one mode are counted in the table of pairs. -/
theorem foldlM_countPair (square : counter.pairs.size = counter.modeCount * counter.modeCount)
    (bound : mode.index < counter.modeCount) {others : List ModeId}
    (bounds : ∀ other ∈ others, other.index < counter.modeCount) :
    ∃ pairs, others.foldlM (countPair mode) counter = .ok { counter with pairs } ∧
      pairs.size = counter.pairs.size ∧
      ∀ first second, ({ counter with pairs } : OvertakeCounter α).pair first second =
        counter.pair first second + if first = mode then others.count second else 0 := by
  induction others generalizing counter with
  | nil => exact ⟨counter.pairs, rfl, rfl, fun first second => by simp⟩
  | cons other others ih =>
      obtain ⟨inside, bounds⟩ := List.forall_mem_cons.mp bounds
      let cell := mode.index * counter.modeCount + other.index
      let next := { counter with pairs := counter.pairs.modify cell (· + 1) }
      have counted : countPair mode counter other = .ok next :=
        if_pos (square ▸ cell_lt bound inside)
      obtain ⟨pairs, done, size, pair⟩ :=
        @ih next (Array.size_modify.trans square) bound bounds
      refine ⟨pairs, ?_, size.trans Array.size_modify, fun first second => (pair ..).trans ?_⟩
      · rw [List.foldlM_cons, counted]
        exact done
      · rw [pair_modify square bound inside, List.count_cons, Nat.add_assoc]
        by_cases own : first = mode
        · by_cases same : other = second
          · simp [own, same, Nat.add_comm]
          · simp [own, same, Ne.symm same]
        · simp [own]

end Pairs

/-- What a counter makes of an event of a known agent, whose link has a given line. -/
structure Counts (counter : OvertakeCounter α) (event : Event) (mode : ModeId)
    (line : List (AgentId × ModeId)) (counter' : OvertakeCounter α) : Prop where
  ready : counter'.Ready
  agentModes : counter'.agentModes = counter.agentModes
  onLink : ∀ link : LinkId, counter'.onLink[link.index]? =
    if link = event.link then some (event.line mode line) else counter.onLink[link.index]?
  countOn : ∀ link, counter'.countOn link =
    counter.countOn link + if link = event.link then (event.overtaken mode line).length else 0
  pair : ∀ first second, counter'.pair first second =
    counter.pair first second +
      if first = mode then (event.overtaken mode line).count second else 0
  total : counter'.total = counter.total + (event.overtaken mode line).length

theorem mem_line {entry : AgentId × ModeId} (member : entry ∈ event.line mode line) :
    entry ∈ line ∨ entry = (event.agent, mode) := by
  unfold Event.line at member
  split at member
  next => exact (List.mem_append.mp member).imp_right List.mem_singleton.mp
  next => exact .inl (List.mem_of_mem_eraseP member)
  next => exact .inl (List.mem_of_mem_filter member)
  next => exact .inl member
  next => exact .inl member

theorem getElem?_modify_link {β : Type} (array : Array β) (change : β → β) (link other : LinkId) :
    (array.modify link.index change)[other.index]? =
      if other = link then array[link.index]?.map change else array[other.index]? := by
  obtain ⟨index⟩ := link
  obtain ⟨position⟩ := other
  rw [Array.getElem?_modify]
  by_cases same : index = position
  · simp [same]
  · simp [same, Ne.symm same]

section Counts

variable (ready : counter.Ready) (known : counter.agentModes[event.agent.index]? = some mode)
  (here : counter.onLink[event.link.index]? = some line)
  {change : List (AgentId × ModeId) → List (AgentId × ModeId)}
  (changes : change line = event.line mode line)
include ready known here changes

theorem Ready.lined_modify :
    ∀ other ∈ counter.onLink.modify event.link.index change, ∀ entry ∈ other,
      counter.agentModes[entry.1.index]? = some entry.2 := by
  intro other listed entry member
  obtain ⟨index, found⟩ := Array.getElem?_of_mem listed
  rw [Array.getElem?_modify] at found
  split at found
  next same =>
    subst same
    rw [here, Option.map_some, Option.some.injEq, changes] at found
    subst found
    obtain old | rfl := mem_line member
    · exact ready.lined line (Array.mem_of_getElem? here) entry old
    · exact known
  next => exact ready.lined other (Array.mem_of_getElem? found) entry member

/-- An event by which nobody is overtaken changes no more than the line of its link. -/
theorem Ready.counts_line (nobody : event.overtaken mode line = []) :
    counter.Counts event mode line
      { counter with onLink := counter.onLink.modify event.link.index change } where
  ready := ⟨ready.square, ready.listed, ready.lined_modify known here changes,
    ready.perLink.trans Array.size_modify.symm⟩
  agentModes := rfl
  onLink link := by rw [getElem?_modify_link, here, Option.map_some, changes]
  countOn link := by
    rw [nobody]
    simp [countOn]
  pair first second := by
    rw [nobody]
    simp [pair]
  total := by rw [nobody, List.length_nil, Nat.add_zero]

end Counts

theorem Ready.counts_nothing (ready : counter.Ready)
    (here : counter.onLink[event.link.index]? = some line)
    (same : event.line mode line = line) (nobody : event.overtaken mode line = []) :
    counter.Counts event mode line counter where
  ready := ready
  agentModes := rfl
  onLink link := by
    split
    next own => rw [own, here, same]
    next => rfl
  countOn link := by simp [nobody]
  pair first second := by simp [nobody]
  total := by rw [nobody, List.length_nil, Nat.add_zero]

theorem exists_split_of_mem_overtaken {other : ModeId}
    (overtaken : other ∈ event.overtaken mode line) :
    event.kind = .linkLeft ∧ ∃ front own back entry, line = front ++ own :: back ∧
      own.1 = event.agent ∧ entry ∈ front ∧ entry.2 = other := by
  unfold Event.overtaken at overtaken
  split at overtaken
  next both =>
    obtain ⟨entry, ahead, same⟩ := List.mem_map.mp (List.mem_of_mem_filter overtaken)
    obtain ⟨behind, listed, here⟩ := List.any_eq_true.mp both.2
    obtain ⟨own, front, back, others, found, parts, -⟩ :=
      List.exists_of_eraseP (p := (·.1 == event.agent)) listed here
    have split : line.takeWhile (·.1 != event.agent) = front := by
      rw [parts, List.takeWhile_append_of_pos, List.takeWhile_cons_of_neg, List.append_nil]
      · simpa using found
      · intro entry member
        simpa using others entry member
    exact ⟨both.1, front, own, back, entry, parts, by simpa using found, split ▸ ahead, same⟩
  next => cases overtaken

structure Explained (counter : OvertakeCounter α)
    (possible : LinkId → ModeId → ModeId → Prop) : Prop where
  pair : ∀ mode other, 0 < counter.pair mode other → ∃ link, possible link mode other
  countOn : ∀ link, 0 < counter.countOn link → ∃ mode other, possible link mode other
  total : 0 < counter.total → ∃ link mode other, possible link mode other

namespace Explained

variable {possible : LinkId → ModeId → ModeId → Prop} (explained : counter.Explained possible)
include explained

theorem counts (counts : counter.Counts event mode line counter')
    (each : ∀ other ∈ event.overtaken mode line, possible event.link mode other) :
    counter'.Explained possible := by
  have overtakes (nonempty : 0 < (event.overtaken mode line).length) :
      ∃ other, possible event.link mode other := by
    obtain ⟨other, member⟩ := List.exists_mem_of_length_pos nonempty
    exact ⟨other, each other member⟩
  refine ⟨fun first second counted => ?_, fun link counted => ?_, fun counted => ?_⟩
  · rw [counts.pair] at counted
    obtain earlier | now := Nat.add_pos_iff_pos_or_pos.mp counted
    · exact explained.pair first second earlier
    · split at now
      next own =>
        subst own
        exact ⟨event.link, each second (List.count_pos_iff.mp now)⟩
      next => cases now
  · rw [counts.countOn] at counted
    obtain earlier | now := Nat.add_pos_iff_pos_or_pos.mp counted
    · exact explained.countOn link earlier
    · split at now
      next own =>
        subst own
        exact ⟨mode, overtakes now⟩
      next => cases now
  · rw [counts.total] at counted
    obtain earlier | now := Nat.add_pos_iff_pos_or_pos.mp counted
    · exact explained.total earlier
    · exact ⟨event.link, mode, overtakes now⟩

end Explained

variable [Quantity α]

theorem Ready.countLeaving_eq_ok (ready : counter.Ready)
    (known : counter.agentModes[event.agent.index]? = some mode)
    (here : counter.onLink[event.link.index]? = some line) (left : event.kind = .linkLeft)
    (aboard : line.any (·.1 == event.agent)) :
    ∃ counter', counter.countLeaving event.agent mode event.link
        (line.takeWhile (·.1 != event.agent)) = .ok counter' ∧
      counter.Counts event mode line counter' := by
  have overtaken : event.overtaken mode line =
      ((line.takeWhile (·.1 != event.agent)).map (·.2)).filter (· != mode) :=
    if_pos ⟨left, aboard⟩
  have bounds : ∀ other ∈ event.overtaken mode line, other.index < counter.modeCount := by
    intro other listed
    rw [overtaken] at listed
    obtain ⟨entry, ahead, rfl⟩ := List.mem_map.mp (List.mem_of_mem_filter listed)
    have own := ready.lined line (Array.mem_of_getElem? here) entry
      ((List.takeWhile_prefix _).subset ahead)
    exact ready.listed entry.2 (Array.mem_of_getElem? own)
  obtain ⟨pairs, done, size, pair⟩ :=
    foldlM_countPair ready.square (ready.listed mode (Array.mem_of_getElem? known)) bounds
  have changes : line.eraseP (·.1 == event.agent) = event.line mode line := by
    rw [Event.line, left]
  have inside : event.link.index < counter.perLink.size :=
    ready.perLink ▸ (Array.getElem?_eq_some_iff.mp here).1
  rw [countLeaving, ← overtaken]
  simp only [done]
  refine ⟨_, rfl, ⟨?_, ?_, ?_, ?_⟩, rfl, fun link => ?_, fun link => ?_, pair, rfl⟩
  · exact size.trans ready.square
  · exact ready.listed
  · exact ready.lined_modify known here changes
  · exact Array.size_modify.trans (ready.perLink.trans Array.size_modify.symm)
  · exact (getElem?_modify_link ..).trans (by rw [here, Option.map_some, changes])
  · refine (congrArg (Option.getD · 0) (getElem?_modify_link ..)).trans ?_
    split
    next same => simp [countOn, same, inside]
    next => rfl

/-- A counter that is ready takes in every event of a known agent on a known link. -/
theorem Ready.record_eq_ok (ready : counter.Ready)
    (known : counter.agentModes[event.agent.index]? = some mode)
    (here : counter.onLink[event.link.index]? = some line) :
    ∃ counter', counter.record event = .ok counter' ∧ counter.Counts event mode line counter' := by
  unfold record
  rw [known, here]
  dsimp only
  cases kind : event.kind with
  | linkEntered =>
      exact ⟨_, rfl, ready.counts_line known here (by rw [Event.line, kind])
        (by simp [Event.overtaken, kind])⟩
  | linkLeft =>
      dsimp only
      split
      next aboard => exact ready.countLeaving_eq_ok known here kind aboard
      next absent =>
        refine ⟨counter, rfl, ready.counts_nothing here ?_ ?_⟩
        · rw [Event.line, kind]
          refine List.eraseP_of_forall_not fun entry listed own => absent ?_
          exact List.any_eq_true.mpr ⟨entry, listed, own⟩
        · exact if_neg fun aboard => absent aboard.2
  | stuck =>
      exact ⟨_, rfl, ready.counts_line known here (by rw [Event.line, kind])
        (by simp [Event.overtaken, kind])⟩
  | departed | arrived =>
      exact ⟨counter, rfl, ready.counts_nothing here (by rw [Event.line, kind])
        (by simp [Event.overtaken, kind])⟩

theorem Ready.counts_hear (ready : counter.Ready)
    (known : counter.agentModes[event.agent.index]? = some mode)
    (here : counter.onLink[event.link.index]? = some line) :
    counter.Counts event mode line (counter.hear event) := by
  obtain ⟨counter', recorded, counts⟩ := ready.record_eq_ok known here
  rw [hear, recorded]
  exact counts

theorem Ready.foldl_hear {events : List Event} (ready : counter.Ready)
    (known : ∀ event ∈ events, counter.agentModes[event.agent.index]? = some mode)
    (here : ∀ event ∈ events, ∃ line, counter.onLink[event.link.index]? = some line) :
    (events.foldl (fun counter event => counter.hear event) counter).Ready ∧
      (events.foldl (fun counter event => counter.hear event) counter).agentModes =
        counter.agentModes ∧
      ∀ (link : LinkId) line, counter.onLink[link.index]? = some line →
        (events.foldl (fun counter event => counter.hear event) counter).onLink[link.index]? =
          some (events.foldl (Event.lineOn link mode) line) := by
  induction events generalizing counter with
  | nil => exact ⟨ready, rfl, fun _ _ found => found⟩
  | cons event events ih =>
      obtain ⟨own, known⟩ := List.forall_mem_cons.mp known
      obtain ⟨⟨line, found⟩, here⟩ := List.forall_mem_cons.mp here
      have counts := ready.counts_hear own found
      have next (link : LinkId) (other : List (AgentId × ModeId))
          (listed : counter.onLink[link.index]? = some other) :
          (counter.hear event).onLink[link.index]? = some (event.lineOn link mode other) := by
        rw [counts.onLink, Event.lineOn]
        by_cases same : event.link = link
        · subst same
          cases found.symm.trans listed
          simp
        · rw [if_neg (Ne.symm same), if_neg same, listed]
      obtain ⟨ready', agentModes, onLink⟩ := ih counts.ready
        (fun event member => counts.agentModes ▸ known event member) fun event member => by
          obtain ⟨other, listed⟩ := here event member
          exact ⟨_, next event.link other listed⟩
      exact ⟨ready', agentModes.trans counts.agentModes,
        fun link other listed => onLink link _ (next link other listed)⟩

theorem record_of_ne (counter : OvertakeCounter α) (stays : event.kind ≠ .linkLeft) :
    ∃ onLink, counter.record event = .ok { counter with onLink } := by
  unfold record
  split
  next =>
    split
    next => exact ⟨_, rfl⟩
    next left => exact absurd left stays
    next => exact ⟨_, rfl⟩
    next => exact ⟨counter.onLink, rfl⟩
    next => exact ⟨counter.onLink, rfl⟩
  next => exact ⟨counter.onLink, rfl⟩

namespace Explained

variable {possible : LinkId → ModeId → ModeId → Prop} (explained : counter.Explained possible)
include explained

theorem hear_of_ne (stays : event.kind ≠ .linkLeft) :
    (counter.hear event).Explained possible := by
  obtain ⟨onLink, recorded⟩ := counter.record_of_ne stays
  rw [hear, recorded]
  exact ⟨explained.pair, explained.countOn, explained.total⟩

theorem foldl_of_ne {events : List Event} (stay : ∀ event ∈ events, event.kind ≠ .linkLeft) :
    (events.foldl (fun counter event => counter.hear event) counter).Explained possible := by
  induction events generalizing counter with
  | nil => exact explained
  | cons event rest ih =>
      obtain ⟨first, others⟩ := List.forall_mem_cons.mp stay
      exact ih (explained.hear_of_ne first) others

end Explained

theorem getElem?_getD_zero {counts : Array Nat} (zero : ∀ count ∈ counts, count = 0) (index : Nat) :
    (counts[index]?).getD 0 = 0 := by
  cases found : counts[index]? with
  | none => rfl
  | some count => exact zero count (Array.mem_of_getElem? found)

theorem explained_new (network : Network α) (count : Nat) (modes : Array ModeId)
    (measured : Option α) (possible : LinkId → ModeId → ModeId → Prop) :
    (new network count modes measured).Explained possible := by
  refine ⟨fun mode other counted => ?_, fun link counted => ?_, fun counted => nomatch counted⟩
  · have fresh : (new network count modes measured).pair mode other = 0 := by
      unfold pair
      split
      · exact getElem?_getD_zero (fun cell listed => (Array.mem_replicate.mp listed).2) _
      · rfl
    rw [fresh] at counted
    cases counted
  · have fresh : (new network count modes measured).countOn link = 0 := by
      refine getElem?_getD_zero (fun cell listed => ?_) _
      obtain ⟨_, -, rfl⟩ := Array.mem_map.mp listed
      rfl
    rw [fresh] at counted
    cases counted

end OvertakeCounter

end MixedTraffic

import Mathlib.Data.List.Induction
import Mathlib.Order.Nat
import MixedTraffic.Proofs.Lists
import MixedTraffic.Run.Sim

namespace MixedTraffic

/-! Which of many changes of a network is in force. Changes are made by time, those of one time
in the order in which they are given, and what one sets holds until another sets it anew. -/

theorem Tick.covering_le_iff {tickSecs : Nat} (positive : 0 < tickSecs) {secs ticks : Nat} :
    covering tickSecs secs ≤ ticks ↔ secs ≤ ticks * tickSecs := by
  constructor
  · intro reached
    exact (le_covering_mul positive secs).trans (Nat.mul_le_mul_right tickSecs reached)
  · exact covering_le positive

/-- An interval begins at or after a second of the day exactly if it is not before the first
that does. -/
theorem Clock.tickAtOrAfter_le_iff {clock : Clock} (positive : 0 < clock.tickSecs)
    {secs : Nat} {tick : Tick} :
    clock.tickAtOrAfter secs ≤ tick ↔ secs ≤ clock.secsAt tick := by
  rw [tickAtOrAfter, Tick.covering_le_iff positive, secsAt]
  omega

namespace NetworkChange

variable {α : Type}

/-- That a change has set a field of a link by a second of the day. -/
structure Sets (change : NetworkChange α) (field : NetworkChange α → Option α) (link : LinkId)
    (secs : Nat) (value : α) : Prop where
  own : change.link = link
  made : change.atSecs ≤ secs
  given : field change = some value

/-- The value that a field of a link has at a second of the day: that of the last change by
time, the last given of one time, among those that have set the field by then. -/
inductive InForce (changes : List (NetworkChange α)) (field : NetworkChange α → Option α)
    (link : LinkId) (secs : Nat) (initial : α) : α → Prop
  | initial (never : ∀ change ∈ changes, ∀ value, ¬change.Sets field link secs value) :
      InForce changes field link secs initial initial
  | set {position : Nat} {change : NetworkChange α} {value : α}
      (listed : changes[position]? = some change) (sets : change.Sets field link secs value)
      (last : ∀ other place given, changes[place]? = some other →
        other.Sets field link secs given →
          other.atSecs < change.atSecs ∨ other.atSecs = change.atSecs ∧ place ≤ position) :
      InForce changes field link secs initial value

/-- There is but one value in force. -/
theorem InForce.unique {changes : List (NetworkChange α)} {field : NetworkChange α → Option α}
    {link : LinkId} {secs : Nat} {initial value value' : α}
    (inForce : InForce changes field link secs initial value)
    (inForce' : InForce changes field link secs initial value') : value = value' := by
  cases inForce with
  | initial never =>
      cases inForce' with
      | initial => rfl
      | set listed sets => exact absurd sets (never _ (List.mem_of_getElem? listed) _)
  | @set position change _ listed sets last =>
      cases inForce' with
      | initial never => exact absurd sets (never _ (List.mem_of_getElem? listed) _)
      | @set position' change' _ listed' sets' last' =>
          have before := last _ _ _ listed' sets'
          have after := last' _ _ _ listed sets
          have same : position = position' := by omega
          subst same
          cases listed.symm.trans listed'
          exact Option.some.inj (sets.given.symm.trans sets'.given)

/-- What is set at the given second is in force then, unless a change behind it sets the field. -/
theorem InForce.of_now {changes : List (NetworkChange α)} {field : NetworkChange α → Option α}
    {link : LinkId} {initial value : α} {change : NetworkChange α} {position : Nat}
    (listed : changes[position]? = some change)
    (sets : change.Sets field link change.atSecs value)
    (silent : ∀ other ∈ changes.drop (position + 1), field other = none) :
    InForce changes field link change.atSecs initial value := by
  refine .set listed sets fun other place given there sets' => ?_
  obtain sooner | same := sets'.made.lt_or_eq
  · exact .inl sooner
  · refine .inr ⟨same, Nat.le_of_not_lt fun behind => ?_⟩
    have among : other ∈ changes.drop (position + 1) := by
      refine List.mem_of_getElem? (i := place - (position + 1)) ?_
      rw [List.getElem?_drop, Nat.add_sub_cancel' behind, there]
    cases (silent other among).symm.trans sets'.given

def put (field : NetworkChange α → Option α) (link : LinkId) (value : α)
    (change : NetworkChange α) : α :=
  if link = change.link then (field change).getD value else value

def amend (link : LinkId) (attributes : Link α) (change : NetworkChange α) : Link α :=
  if link = change.link then change.revise attributes else attributes

variable {field : NetworkChange α → Option α} {link : LinkId} {secs : Nat}

theorem put_of_given {change : NetworkChange α} {value given : α} (own : link = change.link)
    (sets : field change = some given) : put field link value change = given := by
  rw [put, if_pos own, sets, Option.getD_some]

theorem put_of_silent {change : NetworkChange α} {value : α} (due : change.atSecs ≤ secs)
    (silent : ¬∃ given, change.Sets field link secs given) :
    put field link value change = value := by
  unfold put
  split
  next own =>
    cases given : field change with
    | none => rfl
    | some other => exact absurd ⟨other, own.symm, due, given⟩ silent
  next => rfl

theorem freeSpeed_foldl_amend (attributes : Link α) (changes : List (NetworkChange α)) :
    (changes.foldl (amend link) attributes).freeSpeed =
      changes.foldl (put freeSpeed link) attributes.freeSpeed := by
  refine (List.foldl_hom Link.freeSpeed fun attributes change => ?_).symm
  unfold amend put
  split <;> rfl

theorem flowCapacity_foldl_amend (attributes : Link α) (changes : List (NetworkChange α)) :
    (changes.foldl (amend link) attributes).flowCapacity =
      changes.foldl (put flowCapacity link) attributes.flowCapacity := by
  refine (List.foldl_hom Link.flowCapacity fun attributes change => ?_).symm
  unfold amend put
  split <;> rfl

/-- What some changes in a row leave a field at: its first value, or what the last of those
that set it gives. `before` is any order in which they stand. -/
theorem foldl_put {made : List (NetworkChange α × Nat)}
    {before : NetworkChange α × Nat → NetworkChange α × Nat → Prop}
    (ordered : made.Pairwise before) (reflexive : ∀ entry, before entry entry)
    (due : ∀ entry ∈ made, entry.1.atSecs ≤ secs) (initial : α) :
    (made.map (·.1)).foldl (put field link) initial = initial ∧
        (∀ entry ∈ made, ∀ value, ¬entry.1.Sets field link secs value) ∨
      ∃ entry ∈ made,
        entry.1.Sets field link secs ((made.map (·.1)).foldl (put field link) initial) ∧
        ∀ other ∈ made, ∀ value, other.1.Sets field link secs value → before other entry := by
  induction made using List.reverseRecOn with
  | nil => exact .inl ⟨rfl, List.forall_mem_nil _⟩
  | append_singleton earlier entry ih =>
      obtain ⟨sorted, -, behind⟩ := List.pairwise_append.mp ordered
      have last : ∀ other ∈ earlier, before other entry :=
        fun other listed => behind other listed entry List.mem_cons_self
      have reached := ih sorted fun other listed => due other (List.mem_append_left _ listed)
      have now : entry.1.atSecs ≤ secs := due entry (List.mem_append_right _ List.mem_cons_self)
      rw [List.map_append, List.foldl_append, List.map_singleton, List.foldl_cons, List.foldl_nil]
      by_cases sets : ∃ value, entry.1.Sets field link secs value
      · obtain ⟨value, sets⟩ := sets
        refine .inr ⟨entry, List.mem_append_right _ List.mem_cons_self, ?_, ?_⟩
        · rw [put_of_given sets.own.symm sets.given]
          exact sets
        · intro other listed _ _
          obtain listed | listed := List.mem_append.mp listed
          · exact last other listed
          · rw [List.mem_singleton.mp listed]
            exact reflexive entry
      · rw [put_of_silent now sets]
        obtain ⟨same, never⟩ | ⟨setter, listed, made, latest⟩ := reached
        · refine .inl ⟨same, fun other listed value setsOther => ?_⟩
          obtain listed | listed := List.mem_append.mp listed
          · exact never other listed value setsOther
          · rw [List.mem_singleton.mp listed] at setsOther
            exact sets ⟨value, setsOther⟩
        · refine .inr ⟨setter, List.mem_append_left _ listed, made, ?_⟩
          intro other listed value setsOther
          obtain listed | listed := List.mem_append.mp listed
          · exact latest other listed value setsOther
          · rw [List.mem_singleton.mp listed] at setsOther
            exact absurd ⟨value, setsOther⟩ sets

def noLater (change other : NetworkChange α) : Bool := decide (change.atSecs ≤ other.atSecs)

theorem noLater_trans (first second third : NetworkChange α)
    (before : first.noLater second = true) (after : second.noLater third = true) :
    first.noLater third = true := by
  simp only [noLater, decide_eq_true_eq] at *
  omega

theorem noLater_total (first second : NetworkChange α) :
    (first.noLater second || second.noLater first) = true := by
  simp only [noLater, Bool.or_eq_true, decide_eq_true_eq]
  omega

theorem zipIdxLE_noLater {entry later : NetworkChange α × Nat} :
    List.zipIdxLE noLater entry later = true ↔ entry.1.atSecs < later.1.atSecs ∨
      entry.1.atSecs = later.1.atSecs ∧ entry.2 ≤ later.2 := by
  rw [zipIdxLE_eq_true, noLater, noLater, decide_eq_true_eq, decide_eq_true_eq]
  omega

end NetworkChange

namespace SimSetup

variable {α : Type}

/-- Sorted changes with the places at which they were given. -/
def placedChanges (changes : List (NetworkChange α)) : List (NetworkChange α × Nat) :=
  changes.zipIdx.mergeSort (List.zipIdxLE NetworkChange.noLater)

theorem sortChanges_eq_map (changes : List (NetworkChange α)) :
    sortChanges changes = (placedChanges changes).map (·.1) :=
  List.mergeSort_zipIdx.symm

theorem placedChanges_pairwise (changes : List (NetworkChange α)) :
    (placedChanges changes).Pairwise fun entry later =>
      entry.1.atSecs < later.1.atSecs ∨ entry.1.atSecs = later.1.atSecs ∧ entry.2 ≤ later.2 :=
  (List.pairwise_mergeSort (List.zipIdxLE_trans NetworkChange.noLater_trans)
    (List.zipIdxLE_total NetworkChange.noLater_total) _).imp NetworkChange.zipIdxLE_noLater.mp

theorem mem_placedChanges {changes : List (NetworkChange α)} {change : NetworkChange α}
    {place : Nat} : (change, place) ∈ placedChanges changes ↔ changes[place]? = some change := by
  rw [placedChanges, List.mem_mergeSort, List.mk_mem_zipIdx_iff_getElem?]

/-- The changes made by a second of the day leave each field of a link at its value in force. -/
theorem inForce_foldl_put (changes : List (NetworkChange α))
    (field : NetworkChange α → Option α) (link : LinkId) (secs : Nat) (initial : α) :
    NetworkChange.InForce changes field link secs initial
      (((sortChanges changes).takeWhile fun change => decide (change.atSecs ≤ secs)).foldl
        (NetworkChange.put field link) initial) := by
  let due : NetworkChange α × Nat → Bool := fun entry => decide (entry.1.atSecs ≤ secs)
  have ordered := placedChanges_pairwise changes
  have leading : (placedChanges changes).takeWhile due = (placedChanges changes).filter due :=
    takeWhile_eq_filter (ordered.imp fun before late =>
      decide_eq_true (by have := of_decide_eq_true late; omega))
  have mem {change : NetworkChange α} {place : Nat} :
      (change, place) ∈ (placedChanges changes).filter due ↔
        changes[place]? = some change ∧ change.atSecs ≤ secs := by
    rw [List.mem_filter, mem_placedChanges, decide_eq_true_eq]
  have made : (sortChanges changes).takeWhile (fun change => decide (change.atSecs ≤ secs)) =
      ((placedChanges changes).filter due).map (·.1) := by
    rw [sortChanges_eq_map, List.takeWhile_map, ← leading]
    rfl
  rw [made]
  obtain ⟨same, never⟩ | ⟨⟨change, place⟩, listed, sets, last⟩ :=
    @NetworkChange.foldl_put _ field link secs _ _
      (ordered.sublist List.filter_sublist) (fun _ => .inr ⟨rfl, le_rfl⟩)
      (fun _ listed => (mem.mp listed).2) initial
  · rw [same]
    refine .initial fun change listed value sets => ?_
    obtain ⟨place, found⟩ := List.mem_iff_getElem?.mp listed
    exact never (change, place) (mem.mpr ⟨found, sets.made⟩) value sets
  · exact .set (mem.mp listed).1 sets fun other place' given found setsOther =>
      last (other, place') (mem.mpr ⟨found, setsOther.made⟩) given setsOther

end SimSetup

end MixedTraffic

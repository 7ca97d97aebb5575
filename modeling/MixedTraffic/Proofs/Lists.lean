import Mathlib.Data.List.Dedup
import Mathlib.Data.List.Pairwise
import Mathlib.Data.List.Sigma
import Mathlib.Data.List.TakeWhile

namespace MixedTraffic

/-! Facts about lists that the rest relies on, whatever the items are. -/

variable {β γ κ : Type}

section Rows

variable {holds sooner : β → Bool} {items : List β}

/-- Of items in a row of which those that hold are first, the leading ones are all that hold. -/
theorem takeWhile_eq_filter
    (closed : items.Pairwise fun item later => holds later = true → holds item = true) :
    items.takeWhile holds = items.filter holds := by
  induction items with
  | nil => rfl
  | cons item rest ih =>
      obtain ⟨first, others⟩ := List.pairwise_cons.mp closed
      cases held : holds item with
      | true => rw [List.takeWhile_cons_of_pos held, List.filter_cons_of_pos held, ih others]
      | false =>
          rw [List.takeWhile_cons_of_neg (by simp [held]),
            List.filter_cons_of_neg (by simp [held]), eq_comm, List.filter_eq_nil_iff]
          intro later listed held'
          rw [first later listed held'] at held
          cases held

/-- The others are behind them. -/
theorem dropWhile_eq_filter
    (closed : items.Pairwise fun item later => holds later = true → holds item = true) :
    items.dropWhile holds = items.filter fun item => !holds item := by
  induction items with
  | nil => rfl
  | cons item rest ih =>
      obtain ⟨first, others⟩ := List.pairwise_cons.mp closed
      rw [List.dropWhile_cons, List.filter_cons]
      cases reached : holds item with
      | true => simpa using ih others
      | false =>
          simp only [Bool.not_false, Bool.false_eq_true, if_true, if_false]
          apply congrArg (item :: ·)
          apply Eq.symm
          apply List.filter_eq_self.mpr
          intro later listed
          cases again : holds later with
          | false => rfl
          | true => exact absurd (first later listed again) (by simp [reached])

theorem takeWhile_takeWhile (implies : ∀ item, sooner item = true → holds item = true)
    (items : List β) : (items.takeWhile holds).takeWhile sooner = items.takeWhile sooner := by
  have both (item : β) : decide (sooner item = true ∧ holds item = true) = sooner item := by
    simpa using implies item
  rw [List.takeWhile_takeWhile, funext both]

theorem takeWhile_dropWhile (implies : ∀ item, sooner item = true → holds item = true)
    (items : List β) :
    (items.dropWhile sooner).takeWhile holds = (items.takeWhile holds).dropWhile sooner := by
  induction items with
  | nil => rfl
  | cons item rest ih =>
      cases first : sooner item with
      | true => simp [first, implies item first, ih]
      | false => cases second : holds item <;> simp [first, second]

theorem rel_or_rel_of_pairwise {rel : β → β → Prop} {item other : β}
    (ordered : items.Pairwise rel) (member : item ∈ items) (member' : other ∈ items)
    (different : item ≠ other) : rel item other ∨ rel other item := by
  have symm : Std.Symm fun first second => rel first second ∨ rel second first :=
    ⟨fun _ _ => Or.symm⟩
  have either : items.Pairwise fun first second => rel first second ∨ rel second first :=
    ordered.imp Or.inl
  exact either.forall member member' different

theorem dedup_concat [DecidableEq β] (occurrences : List β) (item : β) :
    (occurrences ++ [item]).dedup = occurrences.dedup.filter (· ≠ item) ++ [item] := by
  induction occurrences with
  | nil => rfl
  | cons first rest ih =>
      by_cases again : first ∈ rest
      · rw [List.dedup_cons_of_mem again, ← ih]
        exact List.dedup_cons_of_mem (List.mem_append_left _ again)
      · rw [List.dedup_cons_of_notMem again]
        by_cases own : first = item
        · subst own
          rw [List.filter_cons_of_neg (by simp), ← ih]
          exact List.dedup_cons_of_mem (List.mem_append_right _ (List.mem_singleton_self _))
        · rw [List.filter_cons_of_pos (by simpa using own)]
          change _ = first :: (rest.dedup.filter (· ≠ item) ++ [item])
          rw [← ih]
          exact List.dedup_cons_of_notMem (by simp [again, own])

theorem exists_mapM_id {items : List (Option β)} (all : items.all (·.isSome) = true) :
    ∃ values, items.mapM id = some values := by
  induction items with
  | nil => exact ⟨[], rfl⟩
  | cons item rest ih =>
      rw [List.all_cons, Bool.and_eq_true] at all
      obtain ⟨value, rfl⟩ := Option.isSome_iff_exists.mp all.1
      obtain ⟨values, others⟩ := ih all.2
      exact ⟨value :: values, by rw [List.mapM_cons, others]; rfl⟩

end Rows

section Sorting

theorem zipIdxLE_eq_true {goesFirst : β → β → Bool} {entry later : β × Nat} :
    List.zipIdxLE goesFirst entry later = true ↔ goesFirst entry.1 later.1 = true ∧
      (goesFirst later.1 entry.1 = true → entry.2 ≤ later.2) := by
  unfold List.zipIdxLE
  cases goesFirst entry.1 later.1 <;> cases goesFirst later.1 entry.1 <;> simp

variable {goesFirst : β → β → Bool}
  (trans : ∀ first second third, goesFirst first second = true → goesFirst second third = true →
    goesFirst first third = true)
  (total : ∀ first second, (goesFirst first second || goesFirst second first) = true)
include trans total

/-- A stable sort keeps the order of any two items that might as well stand the other way. -/
theorem pairwise_mergeSort_of_pairwise {before : β → β → Prop} {items : List β}
    (ordered : items.Pairwise before) :
    (items.mergeSort goesFirst).Pairwise fun item later =>
      goesFirst item later = true ∧ (goesFirst later item = true → before item later) := by
  let sorted := items.zipIdx.mergeSort (List.zipIdxLE goesFirst)
  have perm : sorted.Perm items.zipIdx := List.mergeSort_perm ..
  have ranked : sorted.Pairwise fun entry later => List.zipIdxLE goesFirst entry later = true :=
    List.pairwise_mergeSort (List.zipIdxLE_trans trans) (List.zipIdxLE_total total) _
  have distinct : sorted.Pairwise fun entry later => entry.2 ≠ later.2 := by
    rw [← List.pairwise_map]
    exact (perm.map Prod.snd).nodup_iff.mpr (List.nodup_zipIdx_map_snd items)
  rw [← List.mergeSort_zipIdx, List.pairwise_map]
  apply (ranked.and distinct).imp_of_mem
  intro entry later member member' both
  obtain ⟨goes, places⟩ := zipIdxLE_eq_true.mp both.1
  have place := List.mk_mem_zipIdx_iff_getElem?.mp (perm.mem_iff.mp member)
  have place' := List.mk_mem_zipIdx_iff_getElem?.mp (perm.mem_iff.mp member')
  refine ⟨goes, fun tie => ?_⟩
  obtain ⟨bound, item⟩ := List.getElem?_eq_some_iff.mp place
  obtain ⟨bound', item'⟩ := List.getElem?_eq_some_iff.mp place'
  rw [← item, ← item']
  exact List.pairwise_iff_getElem.mp ordered _ _ bound bound'
    (lt_of_le_of_ne (places tie) both.2)

/-- A sorted row is parted where one more item goes. -/
theorem mergeSort_cons_eq (item : β) (rest : List β) :
    let ahead := (rest.mergeSort goesFirst).filter (!goesFirst item ·)
    let behind := (rest.mergeSort goesFirst).filter (goesFirst item)
    (item :: rest).mergeSort goesFirst = ahead ++ item :: behind ∧
      rest.mergeSort goesFirst = ahead ++ behind := by
  obtain ⟨ahead, behind, whole, others, before⟩ := List.mergeSort_cons trans total item rest
  have sorted := List.pairwise_mergeSort trans total (item :: rest)
  rw [whole, List.pairwise_append, List.pairwise_cons] at sorted
  obtain ⟨-, ⟨after, -⟩, -⟩ := sorted
  have ahead_eq : (ahead ++ behind).filter (!goesFirst item ·) = ahead := by
    rw [List.filter_append, List.filter_eq_self.mpr before,
      List.filter_eq_nil_iff.mpr (by simpa using after), List.append_nil]
  have behind_eq : (ahead ++ behind).filter (goesFirst item) = behind := by
    rw [List.filter_append, List.filter_eq_self.mpr after,
      List.filter_eq_nil_iff.mpr (by simpa using before), List.nil_append]
  simp only [others, ahead_eq, behind_eq]
  exact ⟨whole, trivial⟩

theorem filter_mergeSort (holds : β → Bool) (items : List β) :
    (items.mergeSort goesFirst).filter holds = (items.filter holds).mergeSort goesFirst := by
  induction items with
  | nil => simp
  | cons item rest ih =>
      -- The first item parts the sorted rest at one place, whether or not items are left out.
      obtain ⟨whole, others⟩ := mergeSort_cons_eq trans total item rest
      cases held : holds item with
      | false =>
          have drops : ¬holds item = true := by simp [held]
          rw [whole, List.filter_append, List.filter_cons_of_neg drops,
            ← List.filter_append, ← others, List.filter_cons_of_neg drops, ih]
      | true =>
          obtain ⟨whole', -⟩ := mergeSort_cons_eq trans total item (rest.filter holds)
          rw [whole, List.filter_append, List.filter_cons_of_pos held,
            List.filter_cons_of_pos held, whole', ← ih, List.filter_comm,
            List.filter_comm (goesFirst item)]

end Sorting

section Blocks

variable {items : List β} {block : β → List γ} {width : Nat}
  (each : ∀ item ∈ items, (block item).length = width)
include each

theorem length_flatMap_of_length : (items.flatMap block).length = items.length * width := by
  rw [List.length_flatMap, List.map_congr_left each, List.map_const', List.sum_replicate_nat]

theorem getElem?_flatMap_of_length {offset : Nat} (within : offset < width) (position : Nat) :
    (items.flatMap block)[position * width + offset]? =
      items[position]?.bind fun item => (block item)[offset]? := by
  induction items generalizing position with
  | nil => simp
  | cons item rest ih =>
      obtain ⟨first, others⟩ := List.forall_mem_cons.mp each
      rw [List.flatMap_cons]
      cases position with
      | zero =>
          rw [List.getElem?_append_left (by omega)]
          simp
      | succ position =>
          rw [List.getElem?_append_right (by rw [first, Nat.succ_mul]; omega), first,
            List.getElem?_cons_succ, ← ih others]
          congr 1
          rw [Nat.succ_mul]
          omega

end Blocks

section Keys

variable [DecidableEq κ] {items : List β} {key : β → κ} {parts : β → List γ} {keyOf : γ → κ}
  (own : ∀ item ∈ items, ∀ part ∈ parts item, keyOf part = key item)
include own

theorem filter_flatMap_of_notMem {wanted : κ} (absent : wanted ∉ items.map key) :
    (items.flatMap parts).filter (keyOf · = wanted) = [] := by
  apply List.filter_eq_nil_iff.mpr
  intro part listed same
  obtain ⟨item, member, inside⟩ := List.mem_flatMap.mp listed
  apply absent
  rw [← of_decide_eq_true same, own item member part inside]
  exact List.mem_map_of_mem member

/-- Of pieces that are put together, those under one key are the piece of that key. -/
theorem filter_flatMap_of_mem (distinct : (items.map key).Nodup) {item : β}
    (member : item ∈ items) :
    (items.flatMap parts).filter (keyOf · = key item) = parts item := by
  induction items with
  | nil => cases member
  | cons first rest ih =>
      obtain ⟨fresh, others⟩ := List.nodup_cons.mp distinct
      obtain ⟨named, later⟩ := List.forall_mem_cons.mp own
      rw [List.flatMap_cons, List.filter_append]
      rcases List.mem_cons.mp member with rfl | member
      · have kept : (parts item).filter (keyOf · = key item) = parts item :=
          List.filter_eq_self.mpr fun part listed => decide_eq_true (named part listed)
        rw [kept, filter_flatMap_of_notMem later fresh, List.append_nil]
      · have apart : (parts first).filter (keyOf · = key item) = [] := by
          apply List.filter_eq_nil_iff.mpr
          intro part listed same
          apply fresh
          rw [← named part listed, of_decide_eq_true same]
          exact List.mem_map_of_mem member
        rw [apart, List.nil_append, ih later others member]

end Keys

end MixedTraffic

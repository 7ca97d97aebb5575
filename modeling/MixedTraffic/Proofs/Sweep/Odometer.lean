import Mathlib.Algebra.BigOperators.Group.List.Basic
import Mathlib.Data.List.Forall2
import Mathlib.Data.Nat.Basic
import MixedTraffic.Sweep.Odometer

namespace MixedTraffic

/-! What an odometer shows until it stops: all combinations of what its dials can show, in
lexicographic order. -/

/-- All ways to choose one number of each list, the last one varying fastest. -/
def combinations : List (List Nat) → List (List Nat)
  | [] => [[]]
  | axis :: axes => axis.flatMap fun n => (combinations axes).map (n :: ·)

theorem mem_combinations {axes : List (List Nat)} {point : List Nat} :
    point ∈ combinations axes ↔ List.Forall₂ (· ∈ ·) point axes := by
  induction axes generalizing point with
  | nil => rw [combinations, List.mem_singleton, List.forall₂_nil_right_iff]
  | cons axis axes ih =>
      simp only [combinations, List.mem_flatMap, List.mem_map, ih]
      constructor
      · intro chosen
        rcases chosen with ⟨n, here, others, there, rfl⟩
        exact .cons here there
      · intro chosen
        cases chosen with
        | cons here there => exact ⟨_, here, _, there, rfl⟩

theorem length_combinations (axes : List (List Nat)) :
    (combinations axes).length = (axes.map (·.length)).prod := by
  induction axes with
  | nil => rfl
  | cons axis axes ih =>
      simp only [combinations, List.length_flatMap, List.length_map, List.map_const',
        List.sum_replicate, ih, List.map_cons, List.prod_cons, Nat.nsmul_eq_mul]

theorem pairwise_combinations {axes : List (List Nat)}
    (ascending : ∀ axis ∈ axes, axis.Pairwise (· < ·)) :
    (combinations axes).Pairwise (· < ·) := by
  induction axes with
  | nil => exact List.pairwise_singleton ..
  | cons axis axes ih =>
      rw [List.forall_mem_cons] at ascending
      rw [combinations, List.pairwise_flatMap]
      constructor
      · intro n _
        rw [List.pairwise_map]
        apply (ih ascending.2).imp
        intro point later below
        exact List.cons_lt_cons_self.mpr below
      · apply ascending.1.imp
        intro n later below point first other second
        rcases List.mem_map.mp first with ⟨_, -, rfl⟩
        rcases List.mem_map.mp second with ⟨_, -, rfl⟩
        exact List.Lex.rel below

namespace Dial

variable {step : Nat} {dials next : List Dial}

def axis (step : Nat) (dial : Dial) : List Nat :=
  (List.range ((dial.last - dial.shown) / step + 1)).map fun k => dial.shown + k * step

theorem tail_axis (positive : 0 < step) (dial : Dial) :
    (dial.axis step).tail = if dial.shown + step ≤ dial.last then
      axis step { dial with shown := dial.shown + step } else [] := by
  rw [axis, List.range_succ_eq_map, List.map_cons, List.tail_cons, List.map_map]
  split
  next room =>
    have once : (dial.last - dial.shown) / step =
        (dial.last - (dial.shown + step)) / step + 1 := by
      rw [← Nat.add_div_right _ positive]
      congr 1
      omega
    rw [once, axis]
    apply List.map_congr_left
    intro k _
    simp only [Function.comp_apply, Nat.succ_mul]
    omega
  next full =>
    rw [Nat.div_eq_of_lt (by omega)]
    rfl

theorem flatMap_axis (dial : Dial) (points : Nat → List (List Nat)) :
    (dial.axis step).flatMap points =
      points dial.shown ++ (dial.axis step).tail.flatMap points := by
  rw [axis, List.range_succ_eq_map, List.map_cons, List.flatMap_cons, List.tail_cons, Nat.zero_mul,
    Nat.add_zero]

theorem pairwise_axis (positive : 0 < step) (dial : Dial) :
    (dial.axis step).Pairwise (· < ·) := by
  rw [axis, List.pairwise_map]
  apply List.pairwise_lt_range.imp
  intro k later below
  exact Nat.add_lt_add_left (Nat.mul_lt_mul_of_pos_right below positive) _

theorem mem_axis (positive : 0 < step) {dial : Dial} (begun : dial.shown ≤ dial.last) {n : Nat} :
    n ∈ dial.axis step ↔ (∃ k, n = dial.shown + k * step) ∧ n ≤ dial.last := by
  simp only [axis, List.mem_map, List.mem_range, Nat.lt_succ_iff, Nat.le_div_iff_mul_le positive]
  constructor
  · intro shown
    rcases shown with ⟨k, within, rfl⟩
    exact ⟨⟨k, rfl⟩, by omega⟩
  · intro shown
    rcases shown with ⟨⟨k, rfl⟩, within⟩
    exact ⟨k, by omega, rfl⟩

def axes (step : Nat) (dials : List Dial) : List (List Nat) := (dials.map reset).map (axis step)

theorem axes_reset (dials : List Dial) : axes step (dials.map reset) = axes step dials := by
  simp only [axes, List.map_map]
  rfl

theorem axes_turn? (turned : turn? step dials = some next) : axes step next = axes step dials := by
  have same : next.map reset = dials.map reset := by
    induction dials generalizing next with
    | nil => cases turned
    | cons dial behind ih =>
        unfold turn? at turned
        split at turned
        next moved =>
          cases turned
          rw [List.map_cons, List.map_cons, ih moved]
        next =>
          split at turned
          · cases turned
            rw [List.map_cons, List.map_cons, List.map_map]
            rfl
          · cases turned
  rw [axes, same]
  rfl

def rest (step : Nat) : List Dial → List (List Nat)
  | [] => [[]]
  | dial :: behind =>
      (rest step behind).map (dial.shown :: ·) ++
        (dial.axis step).tail.flatMap fun n => (combinations (axes step behind)).map (n :: ·)

/-- With all dials at their beginning, all combinations are still to come. -/
theorem rest_reset (dials : List Dial) :
    rest step (dials.map reset) = combinations (axes step dials) := by
  induction dials with
  | nil => rfl
  | cons dial behind ih =>
      rw [List.map_cons, rest, ih, axes_reset]
      change _ = (axis step dial.reset).flatMap fun n =>
        (combinations (axes step behind)).map (n :: ·)
      rw [flatMap_axis]

/-- An odometer shows what it shows now, and then what it shows from the next turn on. -/
theorem rest_eq_cons (positive : 0 < step) (dials : List Dial) :
    rest step dials = position dials :: (turn? step dials).elim [] (rest step) := by
  induction dials with
  | nil => rfl
  | cons dial behind ih =>
      rw [rest, ih, List.map_cons, List.cons_append, turn?]
      congr 1
      cases turned : turn? step behind with
      | some next => simp only [Option.elim_some, rest, axes_turn? turned]
      | none =>
          rw [Option.elim_none, List.map_nil, List.nil_append, tail_axis positive]
          dsimp only
          split
          next room => rw [Option.elim_some, rest, rest_reset, axes_reset, flatMap_axis]
          next full => rfl

/-- Turns an odometer so many times, unless it stops before. -/
def turns? (step : Nat) : Nat → List Dial → Option (List Dial)
  | 0, dials => some dials
  | n + 1, dials => (turn? step dials).bind (turns? step n)

/-- An odometer stops after it has been turned as often as it has something left to show. -/
theorem turns?_eq_none (positive : 0 < step) {n : Nat} :
    turns? step n dials = none ↔ (rest step dials).length ≤ n := by
  induction n generalizing dials with
  | zero => simp [turns?, rest_eq_cons positive dials]
  | succ n ih =>
      rw [turns?, rest_eq_cons positive dials, List.length_cons, Nat.succ_le_succ_iff]
      cases turn? step dials with
      | none => simp
      | some next => exact ih

/-- Turned until it stops, an odometer has shown all that it had to show. -/
theorem toList_walk (positive : 0 < step) (keeps : List Nat → Bool) (dials : List Dial)
    (kept : Array (List Nat)) :
    (walk step positive keeps dials kept).toList =
      kept.toList ++ (rest step dials).filter keeps := by
  have pushed (kept : Array (List Nat)) (shown : List Nat) :
      (if keeps shown then kept.push shown else kept).toList =
        kept.toList ++ [shown].filter keeps := by
    cases kept' : keeps shown <;> simp [kept']
  induction dials, kept using walk.induct step positive keeps with
  | case1 dials kept stops =>
      rw [walk, rest_eq_cons positive, stops]
      exact pushed kept (position dials)
  | case2 dials kept after next turned ih =>
      rw [walk, rest_eq_cons positive, turned]
      simp only [after, dite_eq_ite] at ih
      rw [ih, pushed, List.append_assoc, ← List.filter_append]
      rfl

end Dial

end MixedTraffic

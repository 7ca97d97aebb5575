import MixedTraffic.Proofs.Sweep.Load
import MixedTraffic.Proofs.Sweep.Mix
import MixedTraffic.Proofs.Sweep.Odometer

namespace MixedTraffic

/-! The points of a grid, in exact amounts: which they are, and in which order they come. -/

namespace Mix

variable {agents : List Nat} {pcu : List Rat} {capacity : Rat} {reduce : Nat}

/-- A point of the grid that loads the ring to at most five units more than its capacity. -/
structure IsPoint (pcu : List Rat) (capacity : Rat) (reduce : Nat) (agents : List Nat) : Prop where
  onGrid : List.Forall₂
    (fun n p => (∃ k, n = 1 + k * max reduce 1) ∧ n ≤ ⌊capacity / p⌋₊ + 1) agents pcu
  light : (agents.zipWith (fun (n : Nat) (p : Rat) => (n : Rat) * p) pcu).sum ≤ capacity + 5

def positions (pcu : List Rat) (capacity : Rat) (reduce : Nat) : List (List Nat) :=
  combinations (Dial.axes (max reduce 1) (dials pcu capacity))

theorem rest_dials (pcu : List Rat) (capacity : Rat) (reduce : Nat) :
    Dial.rest (max reduce 1) (dials pcu capacity) = positions pcu capacity reduce := by
  have begun : (dials pcu capacity).map Dial.reset = dials pcu capacity := by
    rw [dials, List.map_map]
    rfl
  rw [← begun, Dial.rest_reset, positions]

theorem mem_positions : agents ∈ positions pcu capacity reduce ↔ List.Forall₂
    (fun n p => (∃ k, n = 1 + k * max reduce 1) ∧ n ≤ ⌊capacity / p⌋₊ + 1) agents pcu := by
  have shows (n : Nat) (p : Rat) :
      n ∈ Dial.axis (max reduce 1) (Dial.reset ⟨1, Quantity.floorNat (capacity / p) + 1⟩) ↔
        (∃ k, n = 1 + k * max reduce 1) ∧ n ≤ ⌊capacity / p⌋₊ + 1 :=
    Dial.mem_axis (Nat.le_max_right ..) (Nat.le_add_left ..)
  simp only [positions, mem_combinations, Dial.axes, dials, List.map_map,
    List.forall₂_map_right_iff, Function.comp_apply, shows]

theorem length_positions (pcu : List Rat) (capacity : Rat) (reduce : Nat) :
    (positions pcu capacity reduce).length =
      (pcu.map fun p => ⌊capacity / p⌋₊ / max reduce 1 + 1).prod := by
  rw [positions, length_combinations]
  simp only [Dial.axes, dials, List.map_map]
  congr 1
  apply List.map_congr_left
  intro p _
  simp only [Function.comp_apply, Dial.axis, Dial.reset, List.length_map, List.length_range,
    Nat.add_sub_cancel, Quantity.floorNat_eq]

theorem pairwise_positions (pcu : List Rat) (capacity : Rat) (reduce : Nat) :
    (positions pcu capacity reduce).Pairwise (· < ·) := by
  apply pairwise_combinations
  intro axis member
  rcases List.mem_map.mp member with ⟨dial, -, rfl⟩
  exact Dial.pairwise_axis (Nat.le_max_right ..) dial

theorem isPoint_iff : IsPoint pcu capacity reduce agents ↔
    agents ∈ positions pcu capacity reduce ∧ load agents pcu ≤ capacity + overload := by
  rw [mem_positions, load_eq]
  constructor
  · intro point
    exact ⟨point.onGrid, point.light⟩
  · intro both
    exact ⟨both.1, both.2⟩

/-- As long as agents can be counted, the grid has the points that the ring can bear. -/
theorem grid_eq_filter (filled : pcu ≠ [])
    (countable : ∀ agents, IsPoint pcu capacity reduce agents → ∀ n ∈ agents, n < 2 ^ 32) :
    grid pcu capacity reduce = (positions pcu capacity reduce).filter fun agents =>
      decide (load agents pcu ≤ capacity + overload) := by
  have modes : ¬pcu.isEmpty := by rwa [List.isEmpty_iff]
  rw [grid, if_neg modes]
  dsimp only
  rw [Dial.toList_walk, rest_dials, Array.toList_empty, List.nil_append]
  refine (List.map_congr_left ?_).trans (List.map_id _)
  intro agents member
  rw [List.mem_filter, decide_eq_true_iff, ← isPoint_iff] at member
  refine (List.map_congr_left ?_).trans (List.map_id _)
  intro n listed
  exact Nat.mod_eq_of_lt (countable agents member n listed)

/-- The odometer stops after as many turns as the grid has positions, and has then shown each point
of the grid once, in lexicographic order. -/
theorem grid_ascending_points (filled : pcu ≠ [])
    (countable : ∀ agents, IsPoint pcu capacity reduce agents → ∀ n ∈ agents, n < 2 ^ 32) :
    (∀ turns, Dial.turns? (max reduce 1) turns (dials pcu capacity) = none ↔
        (pcu.map fun p => ⌊capacity / p⌋₊ / max reduce 1 + 1).prod ≤ turns) ∧
      (∀ agents, agents ∈ grid pcu capacity reduce ↔ IsPoint pcu capacity reduce agents) ∧
      (grid pcu capacity reduce).Nodup ∧ (grid pcu capacity reduce).Pairwise (· < ·) := by
  have ascending : (grid pcu capacity reduce).Pairwise (· < ·) := by
    rw [grid_eq_filter filled countable]
    exact (pairwise_positions pcu capacity reduce).sublist List.filter_sublist
  refine ⟨?_, ?_, ascending.imp ne_of_lt, ascending⟩
  · intro turns
    rw [Dial.turns?_eq_none (Nat.le_max_right ..), rest_dials, length_positions]
  · intro agents
    rw [grid_eq_filter filled countable, List.mem_filter, decide_eq_true_iff, isPoint_iff]

/-- Cars and trucks on a ring that holds 400 cars, every hundredth count of each. The trucks stop
before their most, the cars do not. -/
theorem grid_ascending_points_of_two :
    (∀ agents, IsPoint [1, 3] 400 100 agents → ∀ n ∈ agents, n < 2 ^ 32) ∧
      (∀ turns, Dial.turns? 100 turns [⟨1, 401⟩, ⟨1, 134⟩] = none ↔ 10 ≤ turns) ∧
      (∀ agents, agents ∈ [[1, 1], [1, 101], [101, 1], [101, 101], [201, 1], [301, 1], [401, 1]] ↔
        IsPoint [1, 3] 400 100 agents) := by
  have most : ⌊(400 : Rat) / 1⌋₊ = 400 ∧ ⌊(400 : Rat) / 3⌋₊ = 133 := by
    constructor <;> norm_num [Nat.floor_eq_iff]
  have countable : ∀ agents, IsPoint [1, 3] 400 100 agents → ∀ n ∈ agents, n < 2 ^ 32 := by
    intro agents point n listed
    cases point.onGrid with
    | cons cars others =>
        cases others with
        | cons trucks rest =>
            cases rest
            rw [most.1] at cars
            rw [most.2] at trucks
            simp only [List.mem_cons, List.not_mem_nil, or_false] at listed
            rcases listed with rfl | rfl <;> omega
  have points : grid ([1, 3] : List Rat) 400 100 =
      [[1, 1], [1, 101], [101, 1], [101, 101], [201, 1], [301, 1], [401, 1]] := by
    decide +kernel
  have dialled : dials ([1, 3] : List Rat) 400 = [⟨1, 401⟩, ⟨1, 134⟩] := by
    simp only [dials, List.map_cons, List.map_nil, Quantity.floorNat_eq, most]
  have shown := @grid_ascending_points [1, 3] 400 100 (List.cons_ne_nil 1 [3]) countable
  rw [points, dialled] at shown
  refine ⟨countable, ?_, shown.2.1⟩
  intro turns
  simpa [most] using shown.1 turns

end Mix

end MixedTraffic

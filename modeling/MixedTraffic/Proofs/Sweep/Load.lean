import Mathlib.Tactic.Ring
import MixedTraffic.Proofs.Run.Ample
import MixedTraffic.Proofs.Sweep.Odometer
import MixedTraffic.Proofs.Sweep.Point

namespace MixedTraffic

/-! How much the points of a sweep load the track, in exact amounts. -/

theorem Quantity.ceilNat_lt {x : Rat} (nonneg : 0 ≤ x) : (ceilNat x : Rat) < x + 1 := by
  change ((x.ceil.toNat : Nat) : Rat) < x + 1
  obtain nonpos | nonneg := Int.le_total x.ceil 0
  · rw [Int.toNat_eq_zero.mpr nonpos, Nat.cast_zero]
    linarith
  · have cast : ((x.ceil.toNat : Nat) : Rat) = x.ceil := by
      rw [← Int.cast_natCast, Int.toNat_of_nonneg nonneg]
    rw [cast]
    exact Rat.ceil_lt

namespace Mix

variable {agents steps : List Nat} {pcu : List Rat} {capacity : Rat}

theorem load_eq (agents : List Nat) (pcu : List Rat) :
    load agents pcu = (agents.zipWith (fun (n : Nat) (p : Rat) => (n : Rat) * p) pcu).sum :=
  Quantity.sum_eq _

theorem load_cons (n : Nat) (p : Rat) (agents : List Nat) (pcu : List Rat) :
    load (n :: agents) (p :: pcu) = n * p + load agents pcu := by
  simp only [load_eq, List.zipWith_cons_cons, List.sum_cons]

theorem load_map_mul (factor : Nat) (agents : List Nat) (pcu : List Rat) :
    load (agents.map (factor * ·)) pcu = factor * load agents pcu := by
  induction agents generalizing pcu with
  | nil => simp [load_eq]
  | cons n agents ih =>
      cases pcu with
      | nil => simp [load_eq]
      | cons p pcu =>
          rw [List.map_cons, load_cons, load_cons, ih]
          push_cast
          ring

theorem load_map_le (positive : ∀ p ∈ pcu, 0 ≤ p) {fewer : Nat → Nat}
    (less : ∀ n, fewer n ≤ n) (agents : List Nat) :
    load (agents.map fewer) pcu ≤ load agents pcu := by
  induction agents generalizing pcu with
  | nil => exact le_rfl
  | cons n agents ih =>
      cases pcu with
      | nil => exact le_rfl
      | cons p pcu =>
          obtain ⟨first, positive⟩ := List.forall_mem_cons.mp positive
          rw [List.map_cons, load_cons, load_cons]
          have count : ((fewer n : Nat) : Rat) ≤ n := Nat.cast_le.mpr (less n)
          exact add_le_add (mul_le_mul_of_nonneg_right count first) (ih positive)

theorem toCount_le (n : Nat) : toCount n ≤ n := Nat.mod_le _ _

theorem load_of_multiples (positive : ∀ p ∈ pcu, 0 ≤ p) (nonneg : 0 ≤ capacity)
    (member : agents ∈ multiples steps pcu capacity) :
    load agents pcu ≤ capacity + overload * load steps pcu := by
  unfold multiples at member
  dsimp only at member
  split at member
  · cases member
  · rename_i above
    have once : 0 < load steps pcu := not_le.mp above
    obtain ⟨earlier, before, rfl⟩ := List.mem_map.mp member
    rw [List.mem_range] at before
    have whole := Quantity.ceilNat_lt (div_nonneg nonneg once.le)
    have few : ((earlier + 1 : Nat) : Rat) ≤ capacity / load steps pcu + overload := by
      have most : earlier + 1 + 1 ≤ Quantity.ceilNat (capacity / load steps pcu) + overload := by
        omega
      have cast : ((earlier + 1 + 1 : Nat) : Rat) ≤
          ((Quantity.ceilNat (capacity / load steps pcu) + overload : Nat) : Rat) :=
        Nat.cast_le.mpr most
      push_cast at cast ⊢
      linarith
    calc load (steps.map fun step => toCount ((earlier + 1) * step)) pcu
        = load ((steps.map ((earlier + 1) * ·)).map toCount) pcu := by
          rw [List.map_map]
          rfl
      _ ≤ load (steps.map ((earlier + 1) * ·)) pcu := load_map_le positive toCount_le _
      _ = (earlier + 1 : Nat) * load steps pcu := load_map_mul ..
      _ ≤ (capacity / load steps pcu + overload) * load steps pcu :=
          mul_le_mul_of_nonneg_right few once.le
      _ = capacity + overload * load steps pcu := by
          rw [add_mul, div_mul_cancel₀ _ once.ne']

theorem load_of_grid (positive : ∀ p ∈ pcu, 0 ≤ p) {reduce : Nat}
    (member : agents ∈ grid pcu capacity reduce) :
    load agents pcu ≤ capacity + overload := by
  unfold grid at member
  split at member
  · cases member
  · obtain ⟨point, kept, rfl⟩ := List.mem_map.mp member
    rw [Dial.toList_walk, Array.toList_empty, List.nil_append] at kept
    have within := of_decide_eq_true (List.mem_filter.mp kept).2
    exact (load_map_le positive toCount_le point).trans within

end Mix

namespace ModeTable

/-- The sizes of the modes, in their order. -/
def pcus (table : ModeTable Rat) : List Rat := table.types.toList.map (·.pcu)

theorem pcus_nonneg (table : ModeTable Rat) : ∀ p ∈ table.pcus, 0 ≤ p := by
  intro p member
  obtain ⟨type, listed, rfl⟩ := List.mem_map.mp member
  obtain ⟨index, bound, rfl⟩ := List.mem_iff_getElem.mp listed
  rw [Array.length_toList] at bound
  have found : table.get? ⟨index⟩ = some table.types[index] := Array.getElem?_eq_getElem bound
  exact (positive found).1.le

def weight (table : ModeTable Rat) (mode : ModeId) : Rat :=
  (table.get? mode).elim 0 (·.pcu)

theorem weight_eq (table : ModeTable Rat) (index : Nat) :
    table.weight ⟨index⟩ = table.pcus[index]?.getD 0 := by
  rw [pcus, List.getElem?_map, Array.getElem?_toList]
  change (table.types[index]?).elim 0 (·.pcu) = _
  cases table.types[index]? <;> rfl

theorem sum_weight (table : ModeTable Rat) (agents : List Nat) (first : Nat) :
    ((agents.zipIdx first).map fun entry => entry.1 * table.weight ⟨entry.2⟩).sum =
      Mix.load agents (table.pcus.drop first) := by
  induction agents generalizing first with
  | nil => rfl
  | cons count agents ih =>
      rw [List.zipIdx_cons, List.map_cons, List.sum_cons, ih, weight_eq]
      cases found : table.pcus[first]? with
      | none =>
          have beyond := List.getElem?_eq_none_iff.mp found
          rw [List.drop_eq_nil_of_le beyond, List.drop_eq_nil_of_le (by omega)]
          simp [Mix.load_eq]
      | some p =>
          obtain ⟨bound, same⟩ := List.getElem?_eq_some_iff.mp found
          rw [List.drop_eq_getElem_cons bound, same, Mix.load_cons]
          rfl

end ModeTable

namespace Sweep

variable {sweep : Sweep Rat} {agents : List Nat} {population : Population}

/-- The passenger-car units that so many agents by mode count for. -/
def load (sweep : Sweep Rat) (agents : List Nat) : Rat := Mix.load agents sweep.table.pcus

theorem load_addJittered (table : ModeTable Rat) (draft : PopulationDraft) (mode : ModeId)
    (secs window : Nat) (driver : Driver) :
    Population.load ⟨(draft.addJittered mode secs window driver).agents⟩ table =
      Population.load ⟨draft.agents⟩ table + table.weight mode := by
  simp [Population.load, PopulationDraft.addJittered, PopulationDraft.add, ModeTable.weight]

theorem load_addAgents (sweep : Sweep Rat) (mode : ModeId) (count : Nat)
    (draft : PopulationDraft) :
    Population.load ⟨(sweep.addAgents mode count draft).agents⟩ sweep.table =
      Population.load ⟨draft.agents⟩ sweep.table + count * sweep.table.weight mode := by
  induction count generalizing draft with
  | zero => simp [addAgents]
  | succ count ih =>
      rw [addAgents, ih, load_addJittered]
      push_cast
      ring

theorem load_addAll (sweep : Sweep Rat) (entries : List (Nat × Nat)) (draft : PopulationDraft) :
    Population.load ⟨(entries.foldl (fun draft (count, mode) =>
        sweep.addAgents ⟨mode⟩ count draft) draft).agents⟩ sweep.table =
      Population.load ⟨draft.agents⟩ sweep.table +
        (entries.map fun entry => entry.1 * sweep.table.weight ⟨entry.2⟩).sum := by
  induction entries generalizing draft with
  | nil => simp
  | cons entry rest ih =>
      rw [List.foldl_cons, ih, load_addAgents, List.map_cons, List.sum_cons, add_assoc]

theorem load_of_population (made : sweep.population agents = .ok population) :
    population.load sweep.table = sweep.load agents := by
  obtain ⟨-, rfl⟩ := PopulationDraft.build_eq_ok.mp made
  rw [load_addAll, ModeTable.sum_weight, List.drop_zero]
  exact zero_add _

/-- What holds of a sweep that has been set up. -/
structure Accepted {α : Type} [Quantity α] (config : SweepConfig α) (sweep : Sweep α) : Prop where
  own : sweep.config = config
  checked : config.check = .ok ()
  table : config.table = .ok sweep.table
  dynamics : config.dynamics.check sweep.table = .ok ()
  track : TestTrack.build config.track = .ok sweep.track

theorem accepted_of_new {α : Type} [Quantity α] {config : SweepConfig α} {sweep : Sweep α}
    (made : Sweep.new config = .ok sweep) : sweep.Accepted config := by
  simp only [Sweep.new, Attempt.bind_eq_ok, Attempt.mapError_eq_ok, Attempt.pure_eq_ok] at made
  obtain ⟨_, checked, table, listed, _, dynamics, track, built, rfl⟩ := made
  exact ⟨rfl, checked, listed, dynamics, built⟩

theorem Accepted.pcuCapacity_nonneg {config : SweepConfig Rat} (accepted : sweep.Accepted config) :
    0 ≤ config.pcuCapacity := by
  have checked := accepted.checked
  have dynamics := accepted.dynamics
  simp only [SweepConfig.check, TrackConfig.check, Attempt.bind_eq_ok,
    Attempt.forM_eq_ok] at checked
  simp only [Dynamics.check, Attempt.bind_eq_ok, ConfigError.require_eq_ok] at dynamics
  obtain ⟨_, -, _, -, _, -, _, -, _, -, _, -, _, -, amounts⟩ := checked
  obtain ⟨_, cell, -⟩ := dynamics
  have amount {what : String} {value : Rat}
      (listed : (what, value) ∈ config.track.amounts) : 0 < value :=
    Quantity.pos_of_isPositive (ConfigError.require_eq_ok.mp (amounts (what, value) listed))
  have length : 0 < config.track.branchLength :=
    @amount "branch_length_m" _ (by simp [TrackConfig.amounts])
  have lanes : 0 < config.track.lanes := @amount "lanes" _ (by simp [TrackConfig.amounts])
  have cell := Quantity.pos_of_isPositive cell
  have ring : 0 ≤ config.track.ringLength := mul_nonneg (Nat.cast_nonneg 3) length.le
  exact mul_nonneg (div_nonneg ring cell.le) lanes.le

/-- A point loads the track with little more than what the ring holds. -/
theorem Accepted.load_of_points {config : SweepConfig Rat} (accepted : sweep.Accepted config)
    (member : agents ∈ sweep.points) :
    sweep.load agents ≤ config.pcuCapacity + Mix.overload *
      max 1 (sweep.load (Mix.steps sweep.table.pcus config.split config.reduce)) := by
  have nonneg := accepted.pcuCapacity_nonneg
  have positive := sweep.table.pcus_nonneg
  unfold points at member
  simp only [accepted.own] at member
  cases source : config.points with
  | modalSplit =>
      rw [source] at member
      refine (Mix.load_of_multiples positive nonneg member).trans ?_
      gcongr
      exact le_max_right ..
  | distribution =>
      rw [source] at member
      refine (Mix.load_of_grid positive member).trans ?_
      have one := le_max_left (1 : Rat)
        (sweep.load (Mix.steps sweep.table.pcus config.split config.reduce))
      gcongr
      exact le_mul_of_one_le_right (Nat.cast_nonneg _) one

end Sweep

end MixedTraffic

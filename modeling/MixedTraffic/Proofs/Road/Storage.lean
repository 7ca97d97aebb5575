import Mathlib.Algebra.Order.BigOperators.Group.List
import Mathlib.Algebra.Order.Ring.Rat
import Mathlib.Tactic.Linarith
import MixedTraffic.Proofs.Run.Frame

namespace MixedTraffic

/-! The space that vehicles take up on a link, in exact amounts. -/

namespace Quantity

theorem larger_eq_max (x y : Rat) : larger x y = max x y := by
  rw [max_def]
  rfl

theorem le_larger_left (x y : Rat) : x ≤ larger x y := by
  rw [larger_eq_max]
  exact le_max_left x y

theorem le_larger_right (x y : Rat) : y ≤ larger x y := by
  rw [larger_eq_max]
  exact le_max_right x y

theorem zero_eq : (zero : Rat) = 0 := rfl

theorem sum_eq (amounts : List Rat) : sum amounts = amounts.sum :=
  (List.sum_eq_foldl ..).symm

theorem slack_pos : (0 : Rat) < slack := by
  norm_num [slack, fraction]

theorem pos_of_isPositive {x : Rat} (positive : isPositive x = true) : 0 < x := by
  have decided : (zero : Rat) < x := by simpa [isPositive, isFinite] using positive
  exact decided

end Quantity

theorem ConfigError.require_eq_ok {α : Type} {condition : Bool} {cause : Inconsistency α}
    {done : Unit} : ConfigError.require condition cause = .ok done ↔ condition = true := by
  cases condition <;> simp [ConfigError.require]

namespace ModeTable

section Positive

variable {α : Type} [Quantity α] {table : ModeTable α} {mode : ModeId} {type : VehicleType α}

theorem isPositive_of_checkTypes {earlier : List String} {types : List (VehicleType α)}
    (checked : checkTypes earlier types = .ok ()) :
    ∀ type ∈ types, Quantity.isPositive type.pcu = true ∧
      Quantity.isPositive type.maxSpeed = true := by
  induction types generalizing earlier with
  | nil => simp
  | cons type rest ih =>
      simp only [checkTypes, Attempt.bind_eq_ok, ConfigError.require_eq_ok] at checked
      obtain ⟨_, pcu, _, speed, _, _, others⟩ := checked
      intro other member
      cases member with
      | head => exact ⟨pcu, speed⟩
      | tail _ later => exact ih others other later

theorem isPositive (listed : table.get? mode = some type) :
    Quantity.isPositive type.pcu = true ∧ Quantity.isPositive type.maxSpeed = true := by
  have checked := table.checked
  simp only [check, Attempt.bind_eq_ok] at checked
  obtain ⟨_, _, _, _, types⟩ := checked
  refine isPositive_of_checkTypes types type ?_
  exact Array.mem_toList_iff.mpr (Array.mem_of_getElem? listed)

end Positive

variable {table : ModeTable Rat} {mode : ModeId} {type : VehicleType Rat}

theorem positive (listed : table.get? mode = some type) :
    0 < type.pcu ∧ 0 < type.maxSpeed :=
  (isPositive listed).imp Quantity.pos_of_isPositive Quantity.pos_of_isPositive

theorem foldl_larger_bounds (types : List (VehicleType Rat)) (start : Rat) :
    start ≤ types.foldl (fun most type => Quantity.larger most type.pcu) start ∧
    ∀ type ∈ types,
      type.pcu ≤ types.foldl (fun most type => Quantity.larger most type.pcu) start := by
  induction types generalizing start with
  | nil => simp
  | cons type rest ih =>
      obtain ⟨base, others⟩ := ih (Quantity.larger start type.pcu)
      refine ⟨(Quantity.le_larger_left _ _).trans base, fun other member => ?_⟩
      cases member with
      | head => exact (Quantity.le_larger_right _ _).trans base
      | tail _ later => exact others other later

theorem maxPcu_nonneg (table : ModeTable Rat) : 0 ≤ table.maxPcu := by
  unfold maxPcu
  rw [← Array.foldl_toList]
  exact (foldl_larger_bounds _ _).1

theorem pcu_le_maxPcu (listed : table.get? mode = some type) : type.pcu ≤ table.maxPcu := by
  unfold maxPcu
  rw [← Array.foldl_toList]
  refine (foldl_larger_bounds _ _).2 type ?_
  exact Array.mem_toList_iff.mpr (Array.mem_of_getElem? listed)

end ModeTable

theorem Vehicle.IsOf.pcu_pos {table : ModeTable Rat} {vehicle : Vehicle Rat}
    (typed : vehicle.IsOf table) : 0 < vehicle.pcu := by
  obtain ⟨type, listed, pcu, -⟩ := typed
  rw [pcu]
  exact (ModeTable.positive listed).1

namespace Room

variable {room room' : Room Rat} {pcu : Rat} {maySeep seeping : Bool}

theorem take?_eq_some :
    room.take? pcu maySeep = some (seeping, room') ↔
      seeping = false ∧ pcu ≤ room.regular + Quantity.slack ∧
        room' = { room with regular := room.regular - pcu } ∨
      seeping = true ∧ room.regular + Quantity.slack < pcu ∧ maySeep = true ∧
        pcu ≤ room.seepage + Quantity.slack ∧
        room' = { room with seepage := room.seepage - pcu } := by
  unfold take?
  by_cases fits : pcu ≤ room.regular + Quantity.slack
  · rw [if_pos fits]
    simp only [Option.some.injEq, Prod.mk.injEq, fits, true_and, not_lt.mpr fits, false_and,
      and_false, or_false]
    constructor
    · rintro ⟨rfl, rfl⟩
      exact ⟨rfl, rfl⟩
    · rintro ⟨rfl, rfl⟩
      exact ⟨rfl, rfl⟩
  · rw [if_neg fits]
    simp only [fits, false_and, and_false, false_or, not_le.mp fits, true_and]
    split
    · rename_i seeps
      simp only [Option.some.injEq, Prod.mk.injEq, seeps, true_and]
      constructor
      · rintro ⟨rfl, rfl⟩
        exact ⟨rfl, rfl⟩
      · rintro ⟨rfl, rfl⟩
        exact ⟨rfl, rfl⟩
    · rename_i stays
      simp only [reduceCtorEq, false_iff]
      rintro ⟨-, seeps, enough, -⟩
      exact stays ⟨seeps, enough⟩

theorem take?_eq_none {α : Type} [Quantity α] {room : Room α} {pcu : α} :
    room.take? pcu maySeep = none ↔
      ¬pcu ≤ room.regular + Quantity.slack ∧
        (maySeep = true → ¬pcu ≤ room.seepage + Quantity.slack) := by
  unfold take?
  by_cases fits : pcu ≤ room.regular + Quantity.slack
  · simp [fits]
  · rw [if_neg fits]
    simp [fits]

end Room

namespace LinkQueue

/-- The space that vehicles take up in one of the pools. -/
def held (seeping : Bool) (vehicles : List (Vehicle Rat)) : Rat :=
  ((vehicles.filter (·.seeping == seeping)).map (·.pcu)).sum

theorem held_perm {vehicles vehicles' : List (Vehicle Rat)} (seeping : Bool)
    (perm : vehicles.Perm vehicles') : held seeping vehicles = held seeping vehicles' :=
  ((perm.filter _).map _).sum_eq

theorem held_cons (seeping : Bool) (vehicle : Vehicle Rat) (rest : List (Vehicle Rat)) :
    held seeping (vehicle :: rest) =
      if vehicle.seeping = seeping then vehicle.pcu + held seeping rest
      else held seeping rest := by
  by_cases same : vehicle.seeping = seeping <;> simp [held, same]

theorem held_nonneg {vehicles : List (Vehicle Rat)} (seeping : Bool)
    (positive : ∀ vehicle ∈ vehicles, 0 < vehicle.pcu) : 0 ≤ held seeping vehicles := by
  refine List.sum_nonneg fun pcu member => ?_
  obtain ⟨vehicle, listed, rfl⟩ := List.mem_map.mp member
  exact (positive vehicle (List.mem_of_mem_filter listed)).le

theorem pcu_le_held {vehicles : List (Vehicle Rat)} {vehicle : Vehicle Rat}
    (positive : ∀ vehicle ∈ vehicles, 0 < vehicle.pcu) (member : vehicle ∈ vehicles) :
    vehicle.pcu ≤ held vehicle.seeping vehicles := by
  obtain ⟨ahead, behind, rfl⟩ := List.append_of_mem member
  rw [held_perm _ List.perm_middle, held_cons, if_pos rfl]
  have others : 0 ≤ held vehicle.seeping (ahead ++ behind) := held_nonneg _ fun other listed =>
    positive other (List.perm_middle.mem_iff.mpr (List.mem_cons_of_mem _ listed))
  linarith

/-- The amounts kept beside a queue are those that its vehicles take up, within the storage,
and only vehicles that may seep are held as seeping. -/
structure Accounted (seeps : ModeId → Bool) (queue : LinkQueue Rat) : Prop where
  occupied : queue.occupied = held false queue.vehicles
  seepOccupied : queue.seepOccupied = held true queue.vehicles
  within : queue.occupied ≤ queue.storage + Quantity.slack
  seepWithin : queue.seepOccupied ≤ queue.seepStorage + Quantity.slack
  positive : ∀ vehicle ∈ queue.vehicles, 0 < vehicle.pcu
  seeping : ∀ vehicle ∈ queue.vehicles, vehicle.seeping = true → seeps vehicle.mode = true

namespace Accounted

variable {seeps : ModeId → Bool} {queue queue' : LinkQueue Rat} {vehicle : Vehicle Rat}

theorem of_like (accounted : queue.Accounted seeps) (like : queue'.Like queue) :
    queue'.Accounted seeps where
  occupied := by rw [like.occupied, like.vehicles, accounted.occupied]
  seepOccupied := by rw [like.seepOccupied, like.vehicles, accounted.seepOccupied]
  within := by
    have storage : queue'.storage = queue.storage := congrArg Site.storage like.site
    rw [like.occupied, storage]
    exact accounted.within
  seepWithin := by
    have storage : queue'.seepStorage = queue.seepStorage :=
      congrArg Site.seepStorage like.site
    rw [like.seepOccupied, storage]
    exact accounted.seepWithin
  positive := by
    rw [like.vehicles]
    exact accounted.positive
  seeping := by
    rw [like.vehicles]
    exact accounted.seeping

/-- The clamp at zero changes no amount: what a vehicle on the link takes up is held. -/
theorem release_eq (accounted : queue.Accounted seeps) (member : vehicle ∈ queue.vehicles) :
    release (if vehicle.seeping then queue.seepOccupied else queue.occupied) vehicle.pcu =
      (if vehicle.seeping then queue.seepOccupied else queue.occupied) - vehicle.pcu := by
  have enough := pcu_le_held accounted.positive member
  unfold release
  rw [Quantity.larger_eq_max, Quantity.zero_eq]
  refine max_eq_left (sub_nonneg.mpr ?_)
  cases seeping : vehicle.seeping with
  | false =>
      rw [seeping] at enough
      simpa [accounted.occupied] using enough
  | true =>
      rw [seeping] at enough
      simpa [accounted.seepOccupied] using enough

theorem holding (accounted : queue.Accounted seeps) (positive : 0 < vehicle.pcu) {now : Tick}
    {seeping : Bool} {room : Room Rat}
    (taken : queue.room.take? vehicle.pcu (seeps vehicle.mode) = some (seeping, room)) :
    (queue.holding (queue.stamped vehicle now seeping)).Accounted seeps := by
  have perm := queue.holding_perm (queue.stamped vehicle now seeping)
  have mem (other : Vehicle Rat)
      (member : other ∈ (queue.holding (queue.stamped vehicle now seeping)).vehicles) :
      other = queue.stamped vehicle now seeping ∨ other ∈ queue.vehicles :=
    List.mem_cons.mp (perm.mem_iff.mp member)
  have aboard : ∀ other ∈ (queue.holding (queue.stamped vehicle now seeping)).vehicles,
      0 < other.pcu := by
    intro other member
    obtain rfl | old := mem other member
    · exact positive
    · exact accounted.positive other old
  obtain ⟨rfl, fits, -⟩ | ⟨rfl, -, may, fits, -⟩ := Room.take?_eq_some.mp taken
  · refine ⟨?_, ?_, ?_, accounted.seepWithin, aboard, ?_⟩
    · rw [held_perm false perm, held_cons, stamped_seeping, if_pos rfl, ← accounted.occupied]
      exact add_comm ..
    · rw [held_perm true perm, held_cons, stamped_seeping, if_neg (by decide)]
      exact accounted.seepOccupied
    · change queue.occupied + vehicle.pcu ≤ queue.storage + Quantity.slack
      simp only [LinkQueue.room] at fits
      linarith
    · intro other member seeping
      obtain rfl | old := mem other member
      · cases seeping
      · exact accounted.seeping other old seeping
  · refine ⟨?_, ?_, accounted.within, ?_, aboard, ?_⟩
    · rw [held_perm false perm, held_cons, stamped_seeping, if_neg (by decide)]
      exact accounted.occupied
    · rw [held_perm true perm, held_cons, stamped_seeping, if_pos rfl,
        ← accounted.seepOccupied]
      exact add_comm ..
    · change queue.seepOccupied + vehicle.pcu ≤ queue.seepStorage + Quantity.slack
      simp only [LinkQueue.room] at fits
      linarith
    · intro other member seeping
      obtain rfl | old := mem other member
      · exact may
      · exact accounted.seeping other old seeping

theorem releasing (accounted : queue.Accounted seeps) {agent : AgentId}
    (aboard : queue.vehicles.find? (·.agent == agent) = some vehicle) (movesOn : Bool) :
    (queue.releasing vehicle movesOn).Accounted seeps := by
  have perm := releasing_perm aboard movesOn
  have member : vehicle ∈ queue.vehicles := List.mem_of_find?_eq_some aboard
  have kept (other : Vehicle Rat)
      (left : other ∈ (queue.releasing vehicle movesOn).vehicles) :
      other ∈ queue.vehicles := perm.mem_iff.mpr (List.mem_cons_of_mem _ left)
  have positive : ∀ other ∈ (queue.releasing vehicle movesOn).vehicles, 0 < other.pcu :=
    fun other left => accounted.positive other (kept other left)
  have pcu := accounted.positive vehicle member
  have regular := accounted.occupied
  have seepage := accounted.seepOccupied
  have clamp := accounted.release_eq member
  rw [held_perm _ perm, held_cons] at regular seepage
  refine ⟨?_, ?_, ?_, ?_, positive, fun other left =>
    accounted.seeping other (kept other left)⟩ <;>
    cases seeping : vehicle.seeping <;>
    simp only [seeping, LinkQueue.releasing, if_true, if_false, Bool.false_eq_true,
      Bool.true_eq_false] at clamp regular seepage ⊢
  · rw [clamp]
    linarith
  · exact regular
  · exact seepage
  · rw [clamp]
    linarith
  · rw [clamp]
    linarith [accounted.within]
  · exact accounted.within
  · exact accounted.seepWithin
  · rw [clamp]
    linarith [accounted.seepWithin]

end Accounted

end LinkQueue

end MixedTraffic

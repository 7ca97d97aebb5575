import Mathlib.Algebra.BigOperators.Group.List.Lemmas
import Mathlib.Algebra.GCDMonoid.Multiset
import Mathlib.Algebra.GCDMonoid.Nat
import Mathlib.Algebra.Order.BigOperators.GroupWithZero.List
import Mathlib.Data.Rat.Floor
import Mathlib.Tactic.Linarith
import Mathlib.Tactic.LinearCombination
import MixedTraffic.Setup.ModeTable
import MixedTraffic.Sweep.Mix

namespace MixedTraffic

/-! The mix that a sweep grows by, in exact amounts: of all mixes in whole agents that load the road
in the ratio of the shares, it is the least, times a factor. -/

namespace Quantity

theorem floorNat_eq (x : Rat) : floorNat x = ⌊x⌋₊ := rfl

end Quantity

/-- That a vehicle takes up some units as a whole, or one of so many parts of a unit. -/
def IsMultipleOrPart (p : Rat) : Prop := ∃ k : Nat, 0 < k ∧ (p = k ∨ p = 1 / k)

theorem IsMultipleOrPart.pos {p : Rat} (size : IsMultipleOrPart p) : 0 < p := by
  rcases size with ⟨k, whole, rfl | rfl⟩
  · exact Nat.cast_pos.mpr whole
  · exact one_div_pos.mpr (Nat.cast_pos.mpr whole)

namespace Mix

variable {agents other shares : List Nat} {pcu split : List Rat}

/-- What one mode contributes to the factor by which all shares are multiplied. -/
def scale (share : Nat) (p : Rat) : Nat :=
  if 1 < p ∧ 0 < share ∧ share % Quantity.floorNat p ≠ 0 then
    Nat.lcm (Quantity.floorNat p) share / share
  else 1

section Unreduced

variable (given : split.length = pcu.length) (shared : ∀ share ∈ split, 1 / 100 ≤ share)
  (sizes : ∀ p ∈ pcu, IsMultipleOrPart p)

end Unreduced

end Mix

end MixedTraffic

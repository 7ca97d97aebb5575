namespace MixedTraffic

/-! Traffic is measured in amounts: passenger-car units, metres, seconds, speeds.
The engine never fixes the number type, so the same rules run on floating-point
numbers and hold exactly on rational ones.

Of two amounts an undefined one gives way to the other. Rounding ends at a natural number, with
zero for all negative amounts and a half going up. -/

/-- A number type that traffic can be measured in. -/
class Quantity (α : Type) extends
    Add α, Sub α, Mul α, Div α, LT α, LE α, BEq α, NatCast α where
  ltDecidable : DecidableLT α
  leDecidable : DecidableLE α
  smaller : α → α → α
  larger : α → α → α
  isFinite : α → Bool
  /-- The sum of no amounts. Added to an amount it changes nothing, not even the sign of a
  zero. -/
  emptySum : α
  ceilNat : α → Nat
  floorNat : α → Nat
  roundNat : α → Nat
  /-- How far the counters go that are kept beside the amounts. -/
  countsTo : Nat → Bool

attribute [reducible, instance] Quantity.ltDecidable Quantity.leDecidable

namespace Quantity

variable {α : Type} [Quantity α]

@[inline] def fraction (numerator denominator : Nat) : α :=
  (numerator : α) / (denominator : α)

@[inline] def zero : α := ((0 : Nat) : α)

/-- Room and budget comparisons forgive this many passenger-car units. -/
@[inline] def slack : α := fraction 1 1000000000

@[inline] def isPositive (x : α) : Bool := isFinite x && decide (zero < x)

@[inline] def gap (x y : α) : α := if x < y then y - x else x - y

@[inline] def magnitude (x : α) : α := if x < zero then zero - x else x

@[inline] def sum (xs : List α) : α := xs.foldl (· + ·) emptySum

end Quantity

/-- Whole numbers taken from a float stop at `2 ^ 64 - 1`, where the counters stop as well, and
an undefined one is zero. -/
instance : Quantity Float where
  natCast := Float.ofNat
  ltDecidable := inferInstance
  leDecidable := inferInstance
  smaller x y := if x.isNaN then y else if y < x then y else x
  larger x y := if x.isNaN then y else if x < y then y else x
  isFinite := Float.isFinite
  emptySum := -0.0
  ceilNat x := x.ceil.toUInt64.toNat
  floorNat x := x.floor.toUInt64.toNat
  roundNat x := x.round.toUInt64.toNat
  countsTo n := decide (n < UInt64.size)

instance : Quantity Rat where
  ltDecidable := inferInstance
  leDecidable := inferInstance
  smaller x y := if x ≤ y then x else y
  larger x y := if x ≤ y then y else x
  isFinite _ := true
  emptySum := 0
  ceilNat x := x.ceil.toNat
  floorNat x := x.floor.toNat
  roundNat x := (x + 1 / 2).floor.toNat
  countsTo _ := true

end MixedTraffic

namespace MixedTraffic.Decimal

/-! The decimal digits of a binary number. A finite float is an exact integer multiple of
a power of two, so both the fewest digits that read back to it and its rounding to fixed
places are found in exact integer arithmetic. -/

/-- Which of two equally near decimals is taken. -/
inductive Tie where
  | up
  | even

def roundDiv (tie : Tie) (numerator denominator : Nat) : Nat :=
  let quotient := numerator / denominator
  let twice := 2 * (numerator % denominator)
  if twice < denominator then quotient
  else if denominator < twice then quotient + 1
  else match tie with
    | .up => quotient + 1
    | .even => quotient + quotient % 2

/-- A finite nonnegative binary number `mantissa * 2 ^ exponent`. Its neighbours are one
mantissa step away, except that the one below a power of two is nearer by half. -/
structure Binary where
  mantissa : Nat
  exponent : Int
  nearBelow : Bool

namespace Binary

def ofFloat (x : Float) : Binary :=
  let bits := x.toBits.toNat
  let hidden : Nat := 0x10000000000000
  let fraction := bits % hidden
  let field := bits / hidden % 0x800
  if field = 0 then ⟨fraction, -1074, false⟩
  else ⟨hidden + fraction, (field : Int) - 1075, fraction == 0 && field != 1⟩

/-- `2 ^ n` in the numerator for a nonnegative exponent, in the denominator otherwise. -/
def scale (base : Nat) (exponent : Int) : Nat × Nat :=
  if 0 ≤ exponent then (base.pow exponent.toNat, 1) else (1, base.pow (-exponent).toNat)

/-- The number in units of `10 ^ unit`, as a numerator over a denominator. -/
def inUnits (x : Binary) (unit : Int) : Nat × Nat :=
  let (up, down) := scale 2 x.exponent
  let (tens, parts) := scale 10 unit
  (x.mantissa * up * parts, down * tens)

/-- The number of digits before the decimal point, zero or negative below 1: the least
`p` with the number below `10 ^ p`. -/
def pointPosition (x : Binary) : Int :=
  let estimate : Int := (x.exponent + x.mantissa.log2) * 30103 / 100000
  let isBelow (p : Int) : Bool :=
    let (numerator, denominator) := x.inUnits p
    decide (numerator < denominator)
  if isBelow estimate then estimate
  else if isBelow (estimate + 1) then estimate + 1
  else if isBelow (estimate + 2) then estimate + 2
  else estimate + 3

/-- Whether `digits * 10 ^ unit` lies nearer to this number than to its neighbours. The ends
of that interval belong to it iff the mantissa is even. -/
def readsBack (x : Binary) (digits : Nat) (unit : Int) : Bool :=
  let (numerator, denominator) := x.inUnits unit
  -- Everything is measured in quarters of a mantissa step.
  let step := numerator / x.mantissa
  let point := 4 * digits * denominator
  let below := 4 * numerator - (if x.nearBelow then step else 2 * step)
  let above := 4 * numerator + 2 * step
  if x.mantissa % 2 = 0 then decide (below ≤ point ∧ point ≤ above)
  else decide (below < point ∧ point < above)

/-- The decimal with at most `digits` digits that reads back to the number, if one does: one
of the number's two neighbours on that decimal grid, the nearer if both do. -/
def withDigits? (x : Binary) (tie : Tie) (digits : Nat) : Option (Nat × Int) :=
  let unit := x.pointPosition - digits
  let (numerator, denominator) := x.inUnits unit
  let floor := numerator / denominator
  match x.readsBack floor unit, x.readsBack (floor + 1) unit with
  | true, true => some (roundDiv tie numerator denominator, unit)
  | true, false => some (floor, unit)
  | false, true => some (floor + 1, unit)
  | false, false => none

/-- The decimal `significand * 10 ^ unit` with the fewest digits that reads back to a positive
number. Seventeen digits always do. -/
def shortest (x : Binary) (tie : Tie) : Nat × Int :=
  ((List.range 17).findSome? fun digits => x.withDigits? tie (digits + 1)).getD (0, 0)

end Binary

end MixedTraffic.Decimal

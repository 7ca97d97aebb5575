import MixedTraffic.Json.Value

namespace MixedTraffic.Json

/-! What the digits of a number mean. An amount is read by gathering digits into a 64-bit
significand and scaling it once by a power of ten; digits beyond the significand only count
for their place. The result may differ from the nearest float in its last digit. -/

structure Numeral where
  negative : Bool
  whole : List Char
  fraction : List Char
  /-- The sign and the digits of the exponent. -/
  exponent : Option (Bool × List Char)

namespace Numeral

def ofLiteral (literal : String) : Numeral :=
  let chars := literal.toList
  let negative := chars.head? == some '-'
  let chars := if negative then chars.drop 1 else chars
  let whole := chars.takeWhile Char.isDigit
  let chars := chars.dropWhile Char.isDigit
  let hasPoint := chars.head? == some '.'
  let chars := if hasPoint then chars.drop 1 else chars
  let fraction := if hasPoint then chars.takeWhile Char.isDigit else []
  let chars := if hasPoint then chars.dropWhile Char.isDigit else chars
  let exponent := match chars with
    | 'e' :: '-' :: digits => some (true, digits)
    | 'e' :: digits => some (false, digits)
    | _ => none
  { negative, whole, fraction, exponent }

def digit (c : Char) : Nat := c.toNat - '0'.toNat

def natural (digits : List Char) : Nat :=
  digits.foldl (fun value c => value * 10 + digit c) 0

/-- The largest significand, and the largest count. -/
def limit : Nat := 0xffffffffffffffff

/-- Appends digits to a significand as long as it stays within the limit. The second number
counts the digits appended. -/
def gather (significand taken : Nat) : List Char → Nat × Nat
  | [] => (significand, taken)
  | c :: rest =>
      let next := significand * 10 + digit c
      if limit < next then (significand, taken) else gather next (taken + 1) rest

/-- Scales by a power of ten. Powers beyond those of a float are divided out in steps, the
second of which leaves nothing. -/
def scale (value : Float) (exponent : Int) : Nat → Option Float
  | 0 => some value
  | steps + 1 =>
      if exponent.natAbs ≤ 308 then
        let power := Float.ofScientific 1 false exponent.natAbs
        if 0 ≤ exponent then
          let scaled := value * power
          if scaled.isInf then none else some scaled
        else some (value / power)
      else if value == 0 then some value
      else if 0 ≤ exponent then none
      else scale (value / 1e308) (exponent + 308) steps

/-- The largest exponent that is counted out. -/
def exponentLimit : Nat := 0x7fffffff

/-- The magnitude of the number, unless it is too large for a float. -/
def magnitude? (numeral : Numeral) : Option Float :=
  let (significand, taken) := gather 0 0 numeral.whole
  let before : Int := (numeral.whole.length - taken : Nat)
  let (significand, taken) := gather significand 0 numeral.fraction
  let exponent := before - taken
  let value := Float.ofNat significand
  match numeral.exponent with
  | none => scale value exponent 3
  | some (negative, digits) =>
      let written := natural digits
      if exponentLimit < written then
        if significand ≠ 0 ∧ !negative then none else some 0
      else scale value (if negative then exponent - written else exponent + written) 3

def float? (numeral : Numeral) : Option Float :=
  numeral.magnitude?.map fun value => if numeral.negative then -value else value

/-- A count is written without sign, point and exponent. -/
def natural? (numeral : Numeral) : Option Nat :=
  let value := natural numeral.whole
  if numeral.negative ∨ !numeral.fraction.isEmpty ∨ numeral.exponent.isSome ∨
      limit < value then none
  else some value

end Numeral

end MixedTraffic.Json

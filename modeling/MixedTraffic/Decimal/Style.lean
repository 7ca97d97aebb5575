import MixedTraffic.Decimal.Digits

namespace MixedTraffic.Decimal

/-! How a number is written. A style settles what the digits leave open: where the exponent
form begins, whether a whole number shows `.0`, and which way a tie goes. -/

structure Style where
  tie : Tie
  /-- A whole number ends in `.0`. -/
  pointZero : Bool
  /-- The positions of the decimal point, counted in digits before it, at which a number is
  written out in full; elsewhere it has an exponent. All positions if absent. -/
  positional : Option (Int × Int)

namespace Style

/-- Messages and output tables write every number out in full. -/
def plain : Style := ⟨.up, false, none⟩

/-- Lists of shares show that they are not whole numbers. -/
def listed : Style := ⟨.up, true, some (-3, 16)⟩

/-- Result files in JSON. -/
def json : Style := ⟨.even, true, some (-4, 16)⟩

end Style

def zeros (n : Nat) : String := String.ofList (List.replicate n '0')

def stripZeros (fuel : Nat) (significand : Nat) (unit : Int) : Nat × Int :=
  match fuel with
  | 0 => (significand, unit)
  | fuel + 1 =>
      if significand % 10 = 0 then stripZeros fuel (significand / 10) (unit + 1)
      else (significand, unit)

/-- Writes `significand * 10 ^ unit`, both significand and its last digit being nonzero. -/
def write (style : Style) (significand : Nat) (unit : Int) : String :=
  let digits := (toString significand).toList
  let point : Int := digits.length + unit
  let inFull := style.positional.elim true fun (low, high) =>
    decide (low ≤ point ∧ point ≤ high)
  if inFull then
    if 0 ≤ unit then
      String.ofList digits ++ zeros unit.toNat ++ (if style.pointZero then ".0" else "")
    else if 0 < point then
      String.ofList (digits.take point.toNat) ++ "." ++
        String.ofList (digits.drop point.toNat)
    else "0." ++ zeros (-point).toNat ++ String.ofList digits
  else
    let fraction := digits.drop 1
    String.ofList (digits.take 1) ++
      (if fraction.isEmpty then "" else "." ++ String.ofList fraction) ++
      "e" ++ toString (point - 1)

def isNegative (x : Float) : Bool := x.toBits >>> 63 == 1

def text (style : Style) (x : Float) : String :=
  if x.isNaN then "NaN"
  else
    let sign := if isNegative x then "-" else ""
    if x.isInf then sign ++ "inf"
    else
      let magnitude := Binary.ofFloat x
      if magnitude.mantissa = 0 then sign ++ (if style.pointZero then "0.0" else "0")
      else
        let (significand, unit) := magnitude.shortest style.tie
        let (significand, unit) := stripZeros 17 significand unit
        sign ++ write style significand unit

/-- The text of a number rounded to fixed places, a tie going to the even digit. -/
def fixed (places : Nat) (x : Float) : String :=
  if x.isNaN then "NaN"
  else
    let sign := if isNegative x then "-" else ""
    if x.isInf then sign ++ "inf"
    else
      let (numerator, denominator) := (Binary.ofFloat x).inUnits (-(places : Int))
      let rounded := roundDiv .even numerator denominator
      let unit := Nat.pow 10 places
      let whole := toString (rounded / unit)
      if places = 0 then sign ++ whole
      else
        let fraction := toString (rounded % unit)
        sign ++ whole ++ "." ++ zeros (places - fraction.length) ++ fraction

end MixedTraffic.Decimal

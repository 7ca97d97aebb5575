import MixedTraffic.Quantity
import MixedTraffic.Sweep.Odometer

namespace MixedTraffic

/-! The agents by mode of the points of a sweep. Either one mix of modes grows from point to
point, or the points are those of a grid. -/

def gcdOf? : List Nat → Option Nat
  | [] => none
  | first :: rest => some (rest.foldl Nat.gcd first)

namespace Mix

variable {α : Type} [Quantity α]

def load (agents : List Nat) (pcu : List α) : α :=
  Quantity.sum (agents.zipWith (fun (n : Nat) (p : α) => (n : α) * p) pcu)

def hundredths (share : α) : Nat := Quantity.roundNat (share * ((100 : Nat) : α))

/-- A mode heavier than one unit must divide its share. This is the factor by which all
shares are multiplied until every such mode does. -/
def multiplier (shares : List Nat) (pcu : List α) : Nat :=
  (shares.zip pcu).foldl
    (fun factor (share, p) =>
      let whole := Quantity.floorNat p
      if ((1 : Nat) : α) < p ∧ 0 < share ∧ share % whole ≠ 0 then
        factor * (Nat.lcm whole share / share)
      else factor)
    1

/-- The smallest mix in whole agents with the given shares of passenger-car units, times
`reduce`. A single mode grows by one agent. -/
def steps (pcu split : List α) (reduce : Nat) : List Nat :=
  let reduce := max reduce 1
  if pcu.length = 1 then [reduce]
  else
    let shares := split.map hundredths
    let factor := multiplier shares pcu
    let agents := shares.zipWith
      (fun (share : Nat) (p : α) => Quantity.roundNat (((share * factor : Nat) : α) / p)) pcu
    let divisor := max ((gcdOf? agents).getD 1) 1
    agents.map fun n => n / divisor * reduce

/-- Points of a little more than what the ring holds are still worth a run. -/
def overload : Nat := 5

/-- Agents are counted in 32 bits. -/
def toCount (n : Nat) : Nat := n % 0x100000000

/-- The multiples of a mix, up to a few units beyond the capacity of the ring. -/
def multiples (steps : List Nat) (pcu : List α) (capacity : α) : List (List Nat) :=
  let once := load steps pcu
  if once ≤ Quantity.zero then []
  else
    let last := Quantity.ceilNat (capacity / once) + overload
    (List.range (last - 1)).map fun m => steps.map fun step => toCount ((m + 1) * step)

/-- An odometer with a dial for each mode, which goes to one more agent than the ring holds of the
mode alone. -/
def dials (pcu : List α) (capacity : α) : List Dial :=
  pcu.map fun p => ⟨1, Quantity.floorNat (capacity / p) + 1⟩

/-- The points of a grid that load the ring to little more than its capacity. There is at least one
agent of each mode. -/
def grid (pcu : List α) (capacity : α) (reduce : Nat) : List (List Nat) :=
  if pcu.isEmpty then []
  else
    let fits (agents : List Nat) : Bool :=
      decide (load agents pcu ≤ capacity + (overload : α))
    let points := Dial.walk (max reduce 1) (Nat.le_max_right ..) fits (dials pcu capacity) #[]
    points.toList.map (·.map toCount)

end Mix

end MixedTraffic

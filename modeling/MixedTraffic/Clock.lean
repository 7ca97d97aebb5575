import MixedTraffic.Quantity

namespace MixedTraffic

/-! Time is counted in whole intervals from the start of the run. A clock maps the count
to seconds of the day. -/

/-- The number of an interval, counted from the start of the run. -/
abbrev Tick := Nat

namespace Tick

def label (tick : Tick) : String := "T" ++ toString tick

/-- The interval so many after another one, unless it is beyond all counting. -/
def after? (α : Type) [quantity : Quantity α] (tick : Tick) (more : Nat) : Option Tick :=
  if quantity.countsTo (tick + more) then some (tick + more) else none

theorem after?_eq_some {α : Type} [quantity : Quantity α] {tick later : Tick} {more : Nat} :
    tick.after? α more = some later ↔
      quantity.countsTo (tick + more) = true ∧ later = tick + more := by
  unfold after?
  split
  · rename_i counted
    simp [counted, eq_comm]
  · rename_i beyond
    simp [beyond]

theorem after?_eq_none {α : Type} [quantity : Quantity α] {tick : Tick} {more : Nat} :
    tick.after? α more = none ↔ quantity.countsTo (tick + more) = false := by
  unfold after?
  split
  · rename_i counted
    simp [counted]
  · rename_i beyond
    simp [beyond]

/-- Exact numbers are counted without end. -/
@[simp] theorem after?_rat (tick : Tick) (more : Nat) : tick.after? Rat more = some (tick + more) :=
  rfl

/-- The least number of intervals that together last at least `secs`. -/
def covering (tickSecs secs : Nat) : Nat :=
  (secs + (tickSecs - 1)) / tickSecs

theorem le_covering_mul {tickSecs : Nat} (positive : 0 < tickSecs) (secs : Nat) :
    secs ≤ covering tickSecs secs * tickSecs := by
  have division := Nat.div_add_mod (secs + (tickSecs - 1)) tickSecs
  have remainder := Nat.mod_lt (secs + (tickSecs - 1)) positive
  unfold covering
  rw [Nat.mul_comm]
  omega

theorem covering_le {tickSecs : Nat} (positive : 0 < tickSecs) {secs ticks : Nat}
    (enough : secs ≤ ticks * tickSecs) : covering tickSecs secs ≤ ticks := by
  unfold covering
  rw [Nat.div_le_iff_le_mul positive]
  omega

end Tick

structure Clock where
  /-- The second of the day at which interval 0 begins. -/
  startSecs : Nat
  tickSecs : Nat
  now : Tick := 0

namespace Clock

def advance (clock : Clock) : Clock := { clock with now := clock.now + 1 }

def set (clock : Clock) (tick : Tick) : Clock := { clock with now := tick }

/-- The second of the day at which an interval begins. -/
def secsAt (clock : Clock) (tick : Tick) : Nat :=
  clock.startSecs + tick * clock.tickSecs

def secs (clock : Clock) : Nat := clock.secsAt clock.now

/-- The first interval that begins at or after a second of the day. -/
def tickAtOrAfter (clock : Clock) (secs : Nat) : Tick :=
  Tick.covering clock.tickSecs (secs - clock.startSecs)

/-- As `tickAtOrAfter`, for a clock that has not been checked: no interval of length zero
ever reaches a second. -/
def tickAtOrAfter? (clock : Clock) (secs : Nat) : Option Tick :=
  if clock.tickSecs = 0 then none else some (clock.tickAtOrAfter secs)

/-- How many intervals a duration takes, rounded up so that nothing is released early. -/
def ticksFor {α : Type} [Quantity α] (clock : Clock) (secs : α) : Nat :=
  Quantity.ceilNat (secs / (clock.tickSecs : α))

def hms (clock : Clock) : Nat × Nat × Nat :=
  (clock.secs / 3600, clock.secs % 3600 / 60, clock.secs % 60)

def twoDigits (n : Nat) : String :=
  if n < 10 then "0" ++ toString n else toString n

def label (clock : Clock) : String :=
  let (hours, minutes, seconds) := clock.hms
  clock.now.label ++ " (" ++ twoDigits hours ++ ":" ++ twoDigits minutes ++ ":" ++
    twoDigits seconds ++ ")"

end Clock

end MixedTraffic

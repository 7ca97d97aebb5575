namespace MixedTraffic

/-! An odometer counts through all combinations of several numbers. Its last dial turns fastest; a
dial that cannot go on begins again while the one ahead of it moves. -/

/-- One dial of an odometer: what it shows, and how far it goes. -/
structure Dial where
  shown : Nat
  last : Nat

namespace Dial

def reset (dial : Dial) : Dial := { dial with shown := 1 }

/-- Moves the last dial that can go on by `step` and resets those behind it, unless none can. -/
def turn? (step : Nat) : List Dial → Option (List Dial)
  | [] => none
  | dial :: behind =>
      match turn? step behind with
      | some behind => some (dial :: behind)
      | none =>
          if dial.shown + step ≤ dial.last then
            some ({ dial with shown := dial.shown + step } :: behind.map reset)
          else none

/-- More than the positions that some dials have. -/
def span : List Dial → Nat
  | [] => 1
  | dial :: behind => (dial.last + 1) * span behind

/-- No less than the turns that are left. -/
def ahead : List Dial → Nat
  | [] => 0
  | dial :: behind => (dial.last - dial.shown) * span behind + ahead behind

theorem ahead_lt_span (dials : List Dial) : ahead dials < span dials := by
  induction dials with
  | nil => exact Nat.one_pos
  | cons dial behind ih =>
      have most : (dial.last - dial.shown) * span behind ≤ dial.last * span behind :=
        Nat.mul_le_mul_right _ (Nat.sub_le ..)
      rw [ahead, span, Nat.succ_mul]
      omega

@[simp] theorem span_reset (dials : List Dial) : span (dials.map reset) = span dials := by
  induction dials with
  | nil => rfl
  | cons dial behind ih => rw [List.map_cons, span, span, ih, reset]

theorem span_turn? {step : Nat} {dials next : List Dial} (turned : turn? step dials = some next) :
    span next = span dials := by
  induction dials generalizing next with
  | nil => cases turned
  | cons dial behind ih =>
      unfold turn? at turned
      split at turned
      next moved =>
        cases turned
        rw [span, span, ih moved]
      next =>
        split at turned
        · cases turned
          rw [span, span, span_reset]
        · cases turned

theorem ahead_turn? {step : Nat} (positive : 0 < step) {dials next : List Dial}
    (turned : turn? step dials = some next) : ahead next < ahead dials := by
  induction dials generalizing next with
  | nil => cases turned
  | cons dial behind ih =>
      unfold turn? at turned
      split at turned
      next moved =>
        cases turned
        rw [ahead, ahead, span_turn? moved]
        exact Nat.add_lt_add_left (ih moved) _
      next =>
        split at turned
        next room =>
          cases turned
          -- The dials behind begin again, which is less than what the one ahead has lost.
          have again := ahead_lt_span (behind.map reset)
          have less : dial.last - dial.shown = dial.last - (dial.shown + step) + step := by omega
          have lost : span behind ≤ step * span behind := Nat.le_mul_of_pos_left _ positive
          rw [span_reset] at again
          simp only [ahead, span_reset, less, Nat.add_mul]
          omega
        next => cases turned

def position (dials : List Dial) : List Nat := dials.map (·.shown)

/-- Turns an odometer until no dial can go on. What it shows on the way is added to `kept`, if it
is worth keeping. -/
def walk (step : Nat) (positive : 0 < step) (keeps : List Nat → Bool) (dials : List Dial)
    (kept : Array (List Nat)) : Array (List Nat) :=
  let kept := if keeps (position dials) then kept.push (position dials) else kept
  match _turned : turn? step dials with
  | none => kept
  | some next => walk step positive keeps next kept
termination_by ahead dials
decreasing_by exact ahead_turn? positive _turned

end Dial

end MixedTraffic

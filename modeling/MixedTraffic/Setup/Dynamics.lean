import MixedTraffic.Clock
import MixedTraffic.Setup.ModeTable

namespace MixedTraffic

inductive InboundOrder where
  | byKey
  /-- The larger flow capacity first, equal ones by key. -/
  | byCapacity
deriving DecidableEq

/-- Lets some modes filter through stopped traffic. -/
structure Seepage (α : Type) where
  modes : List String
  /-- The size of the pool in which they are held, as a part of the regular storage. -/
  fraction : α

structure Dynamics (α : Type) [Quantity α] where
  passing : Bool := false
  seepage : Option (Seepage α) := none
  /-- A vehicle that has been held up for so many seconds is removed. -/
  stuckSecs : Option Nat := some 10
  inboundOrder : InboundOrder := .byKey
  /-- The metres of a lane that one passenger car takes up in a jam. -/
  cell : α := Quantity.fraction 75 10

namespace Dynamics

variable {α : Type} [Quantity α]

def checkNames (table : ModeTable α) : List String → Except (ConfigError α) Unit
  | [] => .ok ()
  | name :: rest =>
      if (table.find? name).isSome then checkNames table rest
      else .error (.unknownMode name)

def check (dynamics : Dynamics α) (table : ModeTable α) : Except (ConfigError α) Unit := do
  ConfigError.require (Quantity.isPositive dynamics.cell) (.cellNotPositive dynamics.cell)
  ConfigError.require (dynamics.stuckSecs != some 0) .stuckTimeZero
  match dynamics.seepage with
  | none => return ()
  | some seepage =>
      let whole : α := Quantity.fraction 1 1
      ConfigError.require
        (decide (Quantity.zero < seepage.fraction ∧ seepage.fraction ≤ whole))
        (.seepFractionOutOfRange seepage.fraction)
      checkNames table seepage.modes

def seepFlags (dynamics : Dynamics α) (table : ModeTable α) : Array Bool :=
  table.types.map fun type =>
    dynamics.seepage.elim false fun seepage => seepage.modes.contains type.name

def stuckTicks (dynamics : Dynamics α) (tickSecs : Nat) : Option Nat :=
  dynamics.stuckSecs.map (Tick.covering (max tickSecs 1))

end Dynamics

end MixedTraffic

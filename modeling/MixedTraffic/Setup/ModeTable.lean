import MixedTraffic.Quantity
import MixedTraffic.Setup.ConfigError

namespace MixedTraffic

structure VehicleType (α : Type) where
  name : String
  /-- The passenger-car units it takes up on a link. -/
  pcu : α
  /-- Metres per second. -/
  maxSpeed : α

namespace VehicleType

variable {α : Type} [Quantity α]

def ofKmh (name : String) (pcu : α) (kmh : Nat) : VehicleType α :=
  ⟨name, pcu, (kmh : α) / Quantity.fraction 36 10⟩

/-- The mixed-traffic types that studies of the fundamental diagram use. -/
def preset? : String → Option (VehicleType α)
  | "car" => some (ofKmh "car" (Quantity.fraction 1 1) 60)
  | "motorbike" => some (ofKmh "motorbike" (Quantity.fraction 1 4) 60)
  | "bike" => some (ofKmh "bike" (Quantity.fraction 1 4) 15)
  | "walk" => some (ofKmh "walk" (Quantity.fraction 1 10) 5)
  | "truck" => some (ofKmh "truck" (Quantity.fraction 3 1) 30)
  | _ => none

end VehicleType

namespace ModeTable

variable {α : Type} [Quantity α]

def checkTypes (earlier : List String) :
    List (VehicleType α) → Except (ConfigError α) Unit
  | [] => .ok ()
  | type :: rest => do
      ConfigError.require (Quantity.isPositive type.pcu)
        (.pcuNotPositive type.name type.pcu)
      ConfigError.require (Quantity.isPositive type.maxSpeed)
        (.speedNotPositive type.name type.maxSpeed)
      ConfigError.require (!earlier.contains type.name) (.modeRepeated type.name)
      checkTypes (type.name :: earlier) rest

/-- A table has between one and 65535 types, of positive size and speed and with names of
their own. -/
def check (types : List (VehicleType α)) : Except (ConfigError α) Unit := do
  ConfigError.require (!types.isEmpty) .noModes
  ConfigError.require (decide (types.length ≤ Kind.mode.reserved)) .tooManyModes
  checkTypes [] types

end ModeTable

/-- The vehicle types of a run. A mode is the position of its type. -/
structure ModeTable (α : Type) [Quantity α] where
  types : Array (VehicleType α)
  checked : ModeTable.check types.toList = .ok ()

namespace ModeTable

variable {α : Type} [Quantity α]

def ofTypes (types : List (VehicleType α)) : Except (ConfigError α) (ModeTable α) :=
  match checked : check types with
  | .ok () => .ok ⟨types.toArray, by simpa using checked⟩
  | .error cause => .error cause

def ofPresets (names : List String) : Except (ConfigError α) (ModeTable α) := do
  let types ← names.mapM fun name =>
    (VehicleType.preset? name).elim (.error (.unknownMode name)) .ok
  ofTypes types

def size (table : ModeTable α) : Nat := table.types.size

def get? (table : ModeTable α) (mode : ModeId) : Option (VehicleType α) :=
  table.types[mode.index]?

def contains (table : ModeTable α) (mode : ModeId) : Bool :=
  decide (mode.index < table.size)

def find? (table : ModeTable α) (name : String) : Option ModeId :=
  (table.types.findIdx? (·.name == name)).map Key.mk

def modes (table : ModeTable α) : List ModeId :=
  (List.range table.size).map Key.mk

theorem nodup_modes (table : ModeTable α) : table.modes.Nodup := Key.nodup_map_range table.size

theorem mem_modes {table : ModeTable α} {mode : ModeId} :
    mode ∈ table.modes ↔ mode.index < table.size := by
  obtain ⟨index⟩ := mode
  simp [modes]

/-- The size of the largest vehicle. No link is ever made smaller than it. -/
def maxPcu (table : ModeTable α) : α :=
  table.types.foldl (fun most type => Quantity.larger most type.pcu) Quantity.zero

end ModeTable

end MixedTraffic

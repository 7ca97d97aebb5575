import MixedTraffic.Setup.Dynamics
import MixedTraffic.Setup.RunConfig
import MixedTraffic.Setup.TrackerConfig
import MixedTraffic.Sweep.Track

namespace MixedTraffic

inductive PointSource where
  /-- Multiples of the smallest mix with the given modal split. -/
  | modalSplit
  /-- A grid over the agents of each mode. -/
  | distribution
deriving DecidableEq

structure SweepConfig (α : Type) [Quantity α] where
  /-- The names of the modes, in the order of the columns. -/
  modes : List String := ["car", "bike"]
  /-- The share of each mode in passenger-car units. -/
  split : List α := [Quantity.fraction 1 1, Quantity.fraction 1 1]
  /-- Thins the points out by this factor. -/
  reduce : Nat := 1
  points : PointSource := .modalSplit
  /-- Departures are spread over so many seconds. -/
  departureWindow : Nat := 900
  track : TrackConfig α := {}
  dynamics : Dynamics α := { passing := true }
  /-- The reference link is always the first one of the base, and the measured length the
  ring unless given. -/
  tracker : TrackerConfig α := {}
  run : RunConfig := { endSecs := 14400 }

namespace SweepConfig

variable {α : Type} [Quantity α]

def repeated? (earlier : List String) : List String → Option String
  | [] => none
  | name :: rest =>
      if earlier.contains name then some name else repeated? (name :: earlier) rest

def isShare (share : α) : Bool :=
  Quantity.isFinite share && decide (Quantity.fraction 1 100 ≤ share)

def checkNames (config : SweepConfig α) : Except (ConfigError α) Unit :=
  match repeated? [] config.modes with
  | some name => .error (.inconsistent (.modeRepeated name))
  | none => .ok ()

def checkShares (config : SweepConfig α) : Except (ConfigError α) Unit :=
  match config.split.find? (!isShare ·) with
  | some share => .error (.inconsistent (.shareTooSmall share))
  | none => .ok ()

def check (config : SweepConfig α) : Except (ConfigError α) Unit := do
  ConfigError.require (!config.modes.isEmpty) .sweepWithoutModes
  config.checkNames
  ConfigError.require (config.split.length == config.modes.length)
    (.shareCountMismatch config.split.length config.modes.length)
  config.checkShares
  ConfigError.require (config.reduce != 0) .reduceFactorZero
  ConfigError.require (config.departureWindow != 0) .departureWindowZero
  config.track.check

def table (config : SweepConfig α) : Except (ConfigError α) (ModeTable α) :=
  ModeTable.ofPresets config.modes

/-- The passenger-car units that the ring holds at jam. -/
def pcuCapacity (config : SweepConfig α) : α :=
  config.track.pcuCapacity config.dynamics.cell

end SweepConfig

end MixedTraffic

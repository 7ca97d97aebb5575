import MixedTraffic.Network.Draft
import MixedTraffic.Route
import MixedTraffic.Setup.ConfigError

namespace MixedTraffic

/-! The triangular test track. Its ring has three branches, `base`, `middle` and `top`, each
of which is cut into links of equal length. Vehicles come from `home` at the start of the
base, circle, and leave for `work` at the end of the base. -/

structure TrackConfig (α : Type) [Quantity α] where
  /-- The metres of one branch. -/
  branchLength : α := Quantity.fraction 1000 1
  subdivision : Nat := 3
  lanes : α := Quantity.fraction 1 1
  /-- The passenger-car units that may leave a link in an hour. -/
  flowCapacity : α := Quantity.fraction 2700 1
  /-- Metres per second. -/
  freeSpeed : α := ((60 : Nat) : α) / Quantity.fraction 36 10

namespace TrackConfig

variable {α : Type} [Quantity α]

def amounts (config : TrackConfig α) : List (String × α) :=
  [("branch_length_m", config.branchLength), ("lanes", config.lanes),
    ("capacity_per_hour", config.flowCapacity), ("free_speed_mps", config.freeSpeed)]

def check (config : TrackConfig α) : Except (ConfigError α) Unit := do
  ConfigError.require (config.subdivision != 0) .subdivisionZero
  config.amounts.forM fun (what, value) =>
    ConfigError.require (Quantity.isPositive value) (.trackNotPositive what value)

def ringLength (config : TrackConfig α) : α := ((3 : Nat) : α) * config.branchLength

/-- The passenger-car units that the ring holds bumper to bumper. -/
def pcuCapacity (config : TrackConfig α) (cell : α) : α :=
  config.ringLength / cell * config.lanes

def jamDensity (config : TrackConfig α) (cell : α) : α :=
  config.lanes * ((1000 : Nat) : α) / cell

end TrackConfig

structure TestTrack (α : Type) [Quantity α] where
  config : TrackConfig α
  network : Network α
  ring : Ring

namespace TestTrack

variable {α : Type} [Quantity α]

/-- The storage of `home` and `work`, which must not hold anybody back. -/
def bufferStorage : α := ((10000 : Nat) : α)

def branchName (branch : Nat) : String :=
  match branch with
  | 0 => "base"
  | 1 => "middle"
  | _ => "top"

def linkBetween (config : TrackConfig α) (name : String) (start finish : Nat)
    (storage : Option α) : Link α where
  name := name
  start := ⟨start⟩
  finish := ⟨finish⟩
  length := config.branchLength / (config.subdivision : α)
  freeSpeed := config.freeSpeed
  lanes := config.lanes
  flowCapacity := config.flowCapacity
  storage := storage
  allowsPassing := true

/-- The nodes of the ring come first, then the two ends of the way in and out. -/
def nodeNames (ringLinks : Nat) : List String :=
  (List.range ringLinks).map (fun i => "r" ++ toString i) ++ ["origin", "destination"]

def ringLink (config : TrackConfig α) (position : Nat) : Link α :=
  let ringLinks := 3 * config.subdivision
  let name := branchName (position / config.subdivision) ++ "_" ++
    toString (position % config.subdivision)
  linkBetween config name position ((position + 1) % ringLinks) none

def draft (config : TrackConfig α) : NetworkDraft α :=
  let ringLinks := 3 * config.subdivision
  let ring := (List.range ringLinks).map (ringLink config)
  let home := linkBetween config "home" ringLinks 0 (some bufferStorage)
  let work := linkBetween config "work" config.subdivision (ringLinks + 1)
    (some bufferStorage)
  { nodes := ((nodeNames ringLinks).map Node.mk).toArray
    links := (ring ++ [home, work]).toArray }

/-- The way round the track of a given subdivision. -/
def ringOf (subdivision : Nat) : Ring where
  home := ⟨3 * subdivision⟩
  loop := (List.range (3 * subdivision)).map Key.mk
  exitAfter := ⟨subdivision - 1⟩
  exit := ⟨3 * subdivision + 1⟩

/-- Where flow is counted: the first link of the base. -/
def referenceLink : LinkId := ⟨0⟩

end TestTrack

end MixedTraffic

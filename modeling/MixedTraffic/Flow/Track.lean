import MixedTraffic.Flow.Sample
import MixedTraffic.Setup.TrackerConfig

namespace MixedTraffic

/-! The statistics of one mode, or of all modes together. Density is that of the moment;
flow and speed are taken over a window of the last bins. A quantity is stable in a bin if
it has changed little since the bin before, its window is full, and there is a vehicle on
the network. -/

structure BinTotals (α : Type) where
  /-- The passenger-car units that entered the reference link. -/
  enteredPcu : α
  /-- The metres of the traversals that were completed. -/
  distance : α
  duration : α

def BinTotals.empty {α : Type} [Quantity α] : BinTotals α :=
  ⟨Quantity.zero, Quantity.zero, Quantity.zero⟩

structure Streaks where
  density : Nat := 0
  flow : Nat := 0
  speed : Nat := 0

def Streaks.arePermanent (streaks : Streaks) (stableBins : Nat) : Bool :=
  decide (stableBins ≤ streaks.density ∧ stableBins ≤ streaks.flow ∧
    stableBins ≤ streaks.speed)

structure Track (α : Type) where
  agents : Nat
  pcu : α
  current : BinTotals α
  /-- The last bins, oldest first. -/
  window : List (BinTotals α)
  sample : FlowSample α
  streaks : Streaks
  /-- Flow has once been stable for long enough. -/
  flowStable : Bool
  /-- Speed has once been stable for long enough. -/
  speedStable : Bool
  /-- The sample of the bin in which flow became permanent everywhere. -/
  frozen : Option (FlowSample α)

namespace Track

variable {α : Type} [Quantity α]

def empty : Track α where
  agents := 0
  pcu := Quantity.zero
  current := .empty
  window := []
  sample := ⟨0, Quantity.zero, Quantity.zero, Quantity.zero⟩
  streaks := {}
  flowStable := false
  speedStable := false
  frozen := none

def enter (track : Track α) (pcu : α) (atReference : Bool) : Track α :=
  { track with
    agents := track.agents + 1
    pcu := track.pcu + pcu
    current :=
      if atReference then
        { track.current with enteredPcu := track.current.enteredPcu + pcu }
      else track.current }

def leave (track : Track α) (pcu : α) : Track α :=
  { track with
    agents := track.agents - 1
    pcu := Quantity.larger (track.pcu - pcu) Quantity.zero }

/-- A vehicle has gone along a link. One that took no time tells nothing about speed. -/
def traverse (track : Track α) (distance duration : α) : Track α :=
  if Quantity.zero < duration then
    { track with
      current :=
        { track.current with
          distance := track.current.distance + distance
          duration := track.current.duration + duration } }
  else track

/-- Whether a quantity has changed little: relative to its last value, which must not be
zero for that. -/
def within (previous next tolerance : α) : Bool :=
  if previous == Quantity.zero then decide (Quantity.gap previous next ≤ tolerance)
  else decide (Quantity.gap previous next ≤ tolerance * Quantity.magnitude previous)

def extend (streak : Nat) (stable : Bool) : Nat := if stable then streak + 1 else 0

/-- The sample of the bins in a window. Without a traversal the speed stays as it was. -/
def sampleOf (track : Track α) (window : List (BinTotals α)) (binSecs measuredKm : α) :
    FlowSample α :=
  let entered := Quantity.sum (window.map (·.enteredPcu))
  let distance := Quantity.sum (window.map (·.distance))
  let duration := Quantity.sum (window.map (·.duration))
  { agents := track.agents
    density := track.pcu / measuredKm
    flow := entered / ((window.length : α) * binSecs) * ((3600 : Nat) : α)
    meanSpeed :=
      if Quantity.zero < duration then distance / duration else track.sample.meanSpeed }

def streaksOf (track : Track α) (config : TrackerConfig α) (window : List (BinTotals α))
    (next : FlowSample α) : Streaks :=
  if window.length < config.windowBins ∨ track.agents = 0 then {}
  else
    let previous := track.sample
    { density := extend track.streaks.density
        (within previous.density next.density config.tolerance)
      flow := extend track.streaks.flow (within previous.flow next.flow config.tolerance)
      speed := extend track.streaks.speed
        (within previous.meanSpeed next.meanSpeed config.tolerance) }

def closeBin (track : Track α) (config : TrackerConfig α) (binSecs measuredKm : α) :
    Track α :=
  let bins := track.window ++ [track.current]
  let window := if config.windowBins < bins.length then bins.drop 1 else bins
  let sample := track.sampleOf window binSecs measuredKm
  let streaks := track.streaksOf config window sample
  { track with
    current := .empty
    window
    sample
    streaks
    flowStable := track.flowStable || decide (config.stableBins ≤ streaks.flow)
    speedStable := track.speedStable || decide (config.stableBins ≤ streaks.speed) }

def isPermanent (track : Track α) (config : TrackerConfig α) : Bool :=
  track.streaks.arePermanent config.stableBins

def freeze (track : Track α) : Track α := { track with frozen := some track.sample }

end Track

end MixedTraffic

import MixedTraffic.Event.Basic
import MixedTraffic.Flow.Track
import MixedTraffic.Setup.ModeTable

namespace MixedTraffic

/-! Flow is tracked from the events alone. Flow is permanent everywhere from the first bin
on in which it is permanent for every mode that has an agent. The samples of that bin are
frozen. -/

structure FlowTracker (α : Type) [Quantity α] where
  config : TrackerConfig α
  tickSecs : Nat
  measuredKm : α
  pcu : Array α
  agentModes : Array ModeId
  linkLengths : Array α
  /-- For each agent on the network, the interval in which it entered its link. -/
  entries : Array (Option Tick)
  /-- The modes that have an agent, in ascending order. -/
  modes : List (ModeId × Track α)
  total : Track α
  bins : Nat
  permanent : Bool

namespace FlowTracker

variable {α : Type} [Quantity α]

def new (network : Network α) (table : ModeTable α) (agentModes : Array ModeId)
    (config : TrackerConfig α) (tickSecs : Nat) :
    Except (ConfigError α) (FlowTracker α) := do
  config.check network
  ConfigError.require (tickSecs != 0) .trackerTickZero
  match agentModes.find? (!table.contains ·) with
  | some mode => .error (.unknownMode mode.label)
  | none =>
      return {
        config
        tickSecs
        measuredKm := config.metres network / ((1000 : Nat) : α)
        pcu := table.types.map (·.pcu)
        agentModes
        linkLengths := network.links.map (·.length)
        entries := agentModes.map fun _ => none
        modes := (table.modes.filter (agentModes.contains ·)).map (·, Track.empty)
        total := .empty
        bins := 0
        permanent := false }

def binSecs (tracker : FlowTracker α) : α :=
  ((tracker.config.binTicks * tracker.tickSecs : Nat) : α)

def track? (tracker : FlowTracker α) (mode : ModeId) : Option (Track α) :=
  tracker.modes.lookup mode

def updateTracks (tracker : FlowTracker α) (mode : ModeId)
    (change : Track α → Track α) : FlowTracker α :=
  { tracker with
    modes := tracker.modes.map fun (other, track) =>
      (other, if other = mode then change track else track)
    total := change tracker.total }

def setEntry (tracker : FlowTracker α) (agent : AgentId) (entry : Option Tick) :
    FlowTracker α :=
  { tracker with entries := tracker.entries.setIfInBounds agent.index entry }

def entry? (tracker : FlowTracker α) (agent : AgentId) : Option Tick :=
  (tracker.entries[agent.index]?).join

def recordVehicle (tracker : FlowTracker α) (event : Event) (mode : ModeId) (pcu : α) :
    FlowTracker α :=
  match event.kind with
  | .linkEntered =>
      let atReference := event.link == tracker.config.referenceLink
      (tracker.setEntry event.agent (some event.time)).updateTracks mode
        (·.enter pcu atReference)
  | .linkLeft =>
      match tracker.entry? event.agent with
      | none => tracker
      | some entered =>
          let distance := tracker.linkLengths[event.link.index]?.getD Quantity.zero
          let duration := ((event.time - entered : Nat) : α) * (tracker.tickSecs : α)
          (tracker.setEntry event.agent none).updateTracks mode fun track =>
            (track.leave pcu).traverse distance duration
  | .stuck =>
      match tracker.entry? event.agent with
      | none => tracker
      | some _ => (tracker.setEntry event.agent none).updateTracks mode (·.leave pcu)
  | .departed | .arrived => tracker

/-- Takes in an event. Events of unknown agents say nothing. -/
def record (tracker : FlowTracker α) (event : Event) : FlowTracker α :=
  let vehicle? := do
    let mode ← tracker.agentModes[event.agent.index]?
    let pcu ← tracker.pcu[mode.index]?
    return (mode, pcu)
  match vehicle? with
  | none => tracker
  | some (mode, pcu) => tracker.recordVehicle event mode pcu

def freeze (tracker : FlowTracker α) : FlowTracker α :=
  { tracker with
    permanent := true
    modes := tracker.modes.map fun (mode, track) => (mode, track.freeze)
    total := tracker.total.freeze }

/-- Ends a bin for every track, and freezes all when flow becomes permanent. -/
def closeBin (tracker : FlowTracker α) : FlowTracker α :=
  let close (track : Track α) : Track α :=
    track.closeBin tracker.config tracker.binSecs tracker.measuredKm
  let tracker :=
    { tracker with
      bins := tracker.bins + 1
      modes := tracker.modes.map fun (mode, track) => (mode, close track)
      total := close tracker.total }
  let allPermanent := !tracker.modes.isEmpty &&
    tracker.modes.all fun (_, track) => track.isPermanent tracker.config
  if !tracker.permanent && allPermanent then tracker.freeze else tracker

def bin (tracker : FlowTracker α) (tick : Tick) : FlowBin α where
  tick := tick
  total := tracker.total.sample
  modes := tracker.modes.map fun (mode, track) => (mode, track.sample)
  permanent := tracker.permanent

/-- Ends an interval, and with it a bin if it is the last one of the bin. -/
def closeInterval (tracker : FlowTracker α) (tick : Tick) :
    Option (FlowBin α) × FlowTracker α :=
  if (tick + 1) % tracker.config.binTicks = 0 then
    let tracker := tracker.closeBin
    (some (tracker.bin tick), tracker)
  else (none, tracker)

def trackedModes (tracker : FlowTracker α) : List ModeId := tracker.modes.map (·.1)

def sample? (tracker : FlowTracker α) (mode : ModeId) : Option (FlowSample α) :=
  (tracker.track? mode).map (·.sample)

def frozenSample? (tracker : FlowTracker α) (mode : ModeId) : Option (FlowSample α) :=
  (tracker.track? mode).bind (·.frozen)

def isFlowStable (tracker : FlowTracker α) (mode : ModeId) : Bool :=
  (tracker.track? mode).any (·.flowStable)

def isSpeedStable (tracker : FlowTracker α) (mode : ModeId) : Bool :=
  (tracker.track? mode).any (·.speedStable)

def isPermanent (tracker : FlowTracker α) (mode : ModeId) : Bool :=
  (tracker.track? mode).any (·.isPermanent tracker.config)

end FlowTracker

end MixedTraffic

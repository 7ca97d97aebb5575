import MixedTraffic.Proofs.Flow.Permanence

namespace MixedTraffic

/-! The bins of a tracker that takes in the events of one interval after another. A bin that has
been closed keeps its samples, whatever is heard later. -/

variable {α : Type} [Quantity α]

namespace Track

def closed (track : Track α) : Track α :=
  { track with agents := 0, pcu := Quantity.zero, current := .empty }

theorem closed_traverse (track : Track α) (distance duration : α) :
    (track.traverse distance duration).closed = track.closed := by
  unfold traverse
  split <;> rfl

end Track

structure TrackerConfig.Sound (config : TrackerConfig α) (network : Network α) : Prop where
  binTicks : 0 < config.binTicks
  windowBins : 0 < config.windowBins
  stableBins : 0 < config.stableBins
  metres : Quantity.isPositive (config.metres network) = true

theorem TrackerConfig.sound_of_check {config : TrackerConfig α} {network : Network α} {done : Unit}
    (checked : config.check network = .ok done) : config.Sound network := by
  simp only [check, Attempt.bind_eq_ok, ConfigError.require_eq_ok, bne_iff_ne] at checked
  obtain ⟨-, bins, -, window, -, stable, -, -, -, -, metres⟩ := checked
  exact ⟨Nat.pos_of_ne_zero bins, Nat.pos_of_ne_zero window, Nat.pos_of_ne_zero stable, metres⟩

namespace FlowTracker

variable {first tracker tracker' : FlowTracker α}

/-- What a new tracker is, and what has been checked of it. -/
structure Fresh (network : Network α) (table : ModeTable α) (modes : Array ModeId)
    (settings : TrackerConfig α) (secs : Nat) (tracker : FlowTracker α) : Prop where
  sound : settings.Sound network
  timed : 0 < secs
  listed : ∀ mode ∈ modes, table.contains mode = true
  config : tracker.config = settings
  tickSecs : tracker.tickSecs = secs
  measuredKm : tracker.measuredKm = settings.metres network / ((1000 : Nat) : α)
  pcu : tracker.pcu = table.types.map (·.pcu)
  agentModes : tracker.agentModes = modes
  linkLengths : tracker.linkLengths = network.links.map (·.length)
  modes : ∀ entry ∈ tracker.modes, entry.2 = .empty
  total : tracker.total = .empty
  bins : tracker.bins = 0
  permanent : tracker.permanent = false

theorem fresh_of_new {network : Network α} {table : ModeTable α} {modes : Array ModeId}
    {config : TrackerConfig α} {tickSecs : Nat}
    (made : FlowTracker.new network table modes config tickSecs = .ok tracker) :
    Fresh network table modes config tickSecs tracker := by
  obtain ⟨checked, timed, contained, rfl⟩ := new_eq_ok.mp made
  refine ⟨TrackerConfig.sound_of_check checked, Nat.pos_of_ne_zero timed, contained,
    rfl, rfl, rfl, rfl, rfl, rfl, fun entry listed => ?_, rfl, rfl, rfl⟩
  obtain ⟨mode, -, rfl⟩ := List.mem_map.mp listed
  rfl

/-- Takes in the events of an interval, and then ends it. -/
def pass (tracker : FlowTracker α) (events : List Event) (tick : Tick) :
    Option (FlowBin α) × FlowTracker α :=
  (events.foldl record tracker).closeInterval tick

/-- The bins that are closed over some intervals from the first one on, given by their events, and
what becomes of the tracker. -/
def observe (tracker : FlowTracker α) (intervals : List (List Event)) :
    List (FlowBin α) × FlowTracker α :=
  intervals.zipIdx.foldl
    (fun state interval =>
      let passed := state.2.pass interval.1 interval.2
      (state.1 ++ passed.1.toList, passed.2))
    ([], tracker)

theorem observe_append (first : FlowTracker α) (intervals : List (List Event))
    (events : List Event) :
    first.observe (intervals ++ [events]) =
      let passed := (first.observe intervals).2.pass events intervals.length
      ((first.observe intervals).1 ++ passed.1.toList, passed.2) := by
  simp only [observe, List.zipIdx_append, List.foldl_append, List.zipIdx_singleton,
    List.foldl_cons, List.foldl_nil, Nat.zero_add]

def binned (tracker : FlowTracker α) : FlowTracker α :=
  { tracker with
    bins := tracker.bins + 1
    modes := tracker.modes.map fun (mode, track) =>
      (mode, track.closeBin tracker.config tracker.binSecs tracker.measuredKm)
    total := tracker.total.closeBin tracker.config tracker.binSecs tracker.measuredKm }

theorem trackedModes_binned (tracker : FlowTracker α) :
    tracker.binned.trackedModes = tracker.trackedModes := by
  rw [trackedModes, binned, List.map_map]
  rfl

theorem trackedModes_freeze (tracker : FlowTracker α) :
    tracker.freeze.trackedModes = tracker.trackedModes := by
  rw [trackedModes, freeze, List.map_map]
  rfl

/-- That flow is permanent for every mode that has an agent, and there is one. -/
def AllPermanent (tracker : FlowTracker α) : Prop :=
  tracker.modes ≠ [] ∧ ∀ entry ∈ tracker.modes, entry.2.isPermanent tracker.config = true

/-- With a bin flow may become permanent everywhere, for the first time. -/
inductive Closes (tracker : FlowTracker α) : FlowTracker α → Prop
  | freezes (before : tracker.permanent = false) (becomes : tracker.binned.AllPermanent) :
      Closes tracker tracker.binned.freeze
  | stays (already : tracker.permanent = true ∨ ¬tracker.binned.AllPermanent) :
      Closes tracker tracker.binned

theorem closes_closeBin (tracker : FlowTracker α) : tracker.Closes tracker.closeBin := by
  have all : (!tracker.binned.modes.isEmpty &&
      tracker.binned.modes.all fun entry => entry.2.isPermanent tracker.config) = true ↔
      tracker.binned.AllPermanent := by
    rw [Bool.and_eq_true, Bool.not_eq_true', List.isEmpty_eq_false_iff, List.all_eq_true]
    rfl
  have closed : tracker.closeBin =
      if !tracker.permanent && (!tracker.binned.modes.isEmpty &&
        tracker.binned.modes.all fun entry => entry.2.isPermanent tracker.config)
      then tracker.binned.freeze else tracker.binned := rfl
  rw [closed]
  split
  next becomes =>
    rw [Bool.and_eq_true, all, Bool.not_eq_true'] at becomes
    exact .freezes becomes.1 becomes.2
  next already =>
    rw [Bool.and_eq_true, all, Bool.not_eq_true', not_and_or, Bool.not_eq_false] at already
    exact .stays already

inductive Ends (tracker : FlowTracker α) (tick : Tick) :
    Option (FlowBin α) × FlowTracker α → Prop
  | closes {tracker' : FlowTracker α} (due : tracker.config.binTicks ∣ tick + 1)
      (closes : tracker.Closes tracker') : Ends tracker tick (some (tracker'.bin tick), tracker')
  | goesOn (within : ¬tracker.config.binTicks ∣ tick + 1) : Ends tracker tick (none, tracker)

theorem ends_closeInterval (tracker : FlowTracker α) (tick : Tick) :
    tracker.Ends tick (tracker.closeInterval tick) := by
  unfold closeInterval
  split
  next due => exact .closes (Nat.dvd_of_mod_eq_zero due) tracker.closes_closeBin
  next within => exact .goesOn fun due => within (Nat.mod_eq_zero_of_dvd due)

/-- What a tracker is set up with, apart from the tracks. -/
structure Alike (tracker' tracker : FlowTracker α) : Prop where
  config : tracker'.config = tracker.config
  tickSecs : tracker'.tickSecs = tracker.tickSecs
  measuredKm : tracker'.measuredKm = tracker.measuredKm
  linkLengths : tracker'.linkLengths = tracker.linkLengths
  pcu : tracker'.pcu = tracker.pcu
  agentModes : tracker'.agentModes = tracker.agentModes

theorem Alike.trans {tracker'' : FlowTracker α} (second : tracker''.Alike tracker')
    (first : tracker'.Alike tracker) : tracker''.Alike tracker where
  config := second.config.trans first.config
  tickSecs := second.tickSecs.trans first.tickSecs
  measuredKm := second.measuredKm.trans first.measuredKm
  linkLengths := second.linkLengths.trans first.linkLengths
  pcu := second.pcu.trans first.pcu
  agentModes := second.agentModes.trans first.agentModes

theorem Closes.alike (closes : tracker.Closes tracker') : tracker'.Alike tracker := by
  cases closes <;> exact ⟨rfl, rfl, rfl, rfl, rfl, rfl⟩

theorem Closes.trackedModes (closes : tracker.Closes tracker') :
    tracker'.trackedModes = tracker.trackedModes := by
  cases closes with
  | freezes => exact (trackedModes_freeze _).trans tracker.trackedModes_binned
  | stays => exact tracker.trackedModes_binned

/-- A tracker that has taken in events, none of which ends a bin. -/
structure Hears (tracker' tracker : FlowTracker α) : Prop extends tracker'.Alike tracker where
  bins : tracker'.bins = tracker.bins
  permanent : tracker'.permanent = tracker.permanent
  modes : (tracker'.modes.map fun entry => (entry.1, entry.2.closed)) =
    tracker.modes.map fun entry => (entry.1, entry.2.closed)
  total : tracker'.total.closed = tracker.total.closed

namespace Hears

theorem refl (tracker : FlowTracker α) : tracker.Hears tracker :=
  ⟨⟨rfl, rfl, rfl, rfl, rfl, rfl⟩, rfl, rfl, rfl, rfl⟩

theorem trans {tracker'' : FlowTracker α} (second : tracker''.Hears tracker')
    (first : tracker'.Hears tracker) : tracker''.Hears tracker where
  toAlike := second.toAlike.trans first.toAlike
  bins := second.bins.trans first.bins
  permanent := second.permanent.trans first.permanent
  modes := second.modes.trans first.modes
  total := second.total.trans first.total

theorem updateTracks (tracker : FlowTracker α) (agent : AgentId) (entry : Option Tick)
    (mode : ModeId) {change : Track α → Track α}
    (keeps : ∀ track, (change track).closed = track.closed) :
    ((tracker.setEntry agent entry).updateTracks mode change).Hears tracker := by
  refine ⟨⟨rfl, rfl, rfl, rfl, rfl, rfl⟩, rfl, rfl, ?_, keeps tracker.total⟩
  rw [FlowTracker.updateTracks, List.map_map]
  refine List.map_congr_left fun entry _ => ?_
  dsimp only [Function.comp_apply]
  split
  · rw [keeps]
  · rfl

theorem record (tracker : FlowTracker α) (event : Event) :
    (tracker.record event).Hears tracker := by
  unfold FlowTracker.record
  dsimp only
  split
  · exact refl tracker
  · unfold recordVehicle
    split
    · exact updateTracks _ _ _ _ fun _ => rfl
    · split
      · exact refl tracker
      · exact updateTracks _ _ _ _ fun track => (track.leave _).closed_traverse ..
    · split
      · exact refl tracker
      · exact updateTracks _ _ _ _ fun _ => rfl
    · exact refl tracker
    · exact refl tracker

theorem foldl_record (tracker : FlowTracker α) (events : List Event) :
    (events.foldl FlowTracker.record tracker).Hears tracker := by
  induction events generalizing tracker with
  | nil => exact refl tracker
  | cons event rest ih => exact (ih (tracker.record event)).trans (record tracker event)

theorem trackedModes (hears : tracker'.Hears tracker) :
    tracker'.trackedModes = tracker.trackedModes := by
  have keys := congrArg (List.map Prod.fst) hears.modes
  rw [List.map_map, List.map_map] at keys
  exact keys

theorem exists_track (hears : tracker'.Hears tracker) {mode : ModeId} {track' : Track α}
    (listed : (mode, track') ∈ tracker'.modes) :
    ∃ track, (mode, track) ∈ tracker.modes ∧ track'.closed = track.closed := by
  have kept : (mode, track'.closed) ∈ tracker'.modes.map fun entry => (entry.1, entry.2.closed) :=
    List.mem_map_of_mem listed
  rw [hears.modes] at kept
  obtain ⟨⟨_, track⟩, before, same⟩ := List.mem_map.mp kept
  obtain ⟨rfl, alike⟩ := Prod.mk.inj same
  exact ⟨track, before, alike.symm⟩

end Hears

theorem ends_pass (tracker : FlowTracker α) (events : List Event) (tick : Tick) :
    (events.foldl record tracker).Ends tick (tracker.pass events tick) :=
  ends_closeInterval _ tick

theorem alike_pass (tracker : FlowTracker α) (events : List Event) (tick : Tick) :
    (tracker.pass events tick).2.Alike tracker := by
  have hears := Hears.foldl_record tracker events
  have ends := tracker.ends_pass events tick
  generalize tracker.pass events tick = passed at ends
  cases ends with
  | closes _ closes => exact closes.alike.trans hears.toAlike
  | goesOn => exact hears.toAlike

theorem alike_observe (first : FlowTracker α) (intervals : List (List Event)) :
    (first.observe intervals).2.Alike first := by
  induction intervals using List.reverseRecOn with
  | nil => exact (Hears.refl first).toAlike
  | append_singleton intervals events ih =>
      rw [observe_append]
      exact (alike_pass _ events intervals.length).trans ih

end FlowTracker

end MixedTraffic

import MixedTraffic.Proofs.Flow.Presence

namespace MixedTraffic

/-! What is never taken back: flow and speed of a track that have been stable, and the samples of
the bin in which flow became permanent. -/

variable {α : Type}

namespace Track

variable {track : Track α}

/-- What a track keeps from one bin to the next. -/
def latches (track : Track α) : Bool × Bool × Option (FlowSample α) :=
  (track.flowStable, track.speedStable, track.frozen)

structure Settled (track : Track α) : Prop where
  flowStable : track.flowStable = true
  speedStable : track.speedStable = true
  frozen : track.frozen.isSome

theorem Settled.congr {track' : Track α} (settled : track.Settled)
    (same : track'.latches = track.latches) : track'.Settled := by
  obtain ⟨flow, rest⟩ := Prod.mk.inj same
  obtain ⟨speed, frozen⟩ := Prod.mk.inj rest
  exact ⟨flow.trans settled.flowStable, speed.trans settled.speedStable, frozen ▸ settled.frozen⟩

variable [Quantity α] {config : TrackerConfig α} {binSecs measuredKm : α}

theorem latches_traverse (track : Track α) (distance duration : α) :
    (track.traverse distance duration).latches = track.latches := by
  unfold traverse
  split <;> rfl

theorem Settled.closeBin (settled : track.Settled) :
    (track.closeBin config binSecs measuredKm).Settled where
  flowStable := Bool.or_eq_true_iff.mpr (.inl settled.flowStable)
  speedStable := Bool.or_eq_true_iff.mpr (.inl settled.speedStable)
  frozen := settled.frozen

/-- Flow that is permanent after a bin has been stable for as long, and so has speed. -/
theorem settled_of_isPermanent
    (permanent : (track.closeBin config binSecs measuredKm).isPermanent config = true) :
    (track.closeBin config binSecs measuredKm).freeze.Settled := by
  obtain ⟨-, flow, speed⟩ := of_decide_eq_true permanent
  exact ⟨Bool.or_eq_true_iff.mpr (.inr (decide_eq_true flow)),
    Bool.or_eq_true_iff.mpr (.inr (decide_eq_true speed)), rfl⟩

end Track

variable [Quantity α]

namespace FlowTracker

variable {first tracker : FlowTracker α}

/-- The states that a tracker may come to from a first one. -/
inductive Reaches (first : FlowTracker α) : FlowTracker α → Prop
  | first : Reaches first first
  | record {tracker : FlowTracker α} (reached : Reaches first tracker) (event : Event) :
      Reaches first (tracker.record event)
  | closeInterval {tracker : FlowTracker α} (reached : Reaches first tracker) (tick : Tick) :
      Reaches first (tracker.closeInterval tick).2

theorem Reaches.foldl_record (reaches : Reaches first tracker) (events : List Event) :
    Reaches first (events.foldl FlowTracker.record tracker) := by
  induction events generalizing tracker with
  | nil => exact reaches
  | cons event rest ih => exact ih (reaches.record event)

/-- What of a tracker no event changes. -/
def latches (tracker : FlowTracker α) :
    Bool × List (ModeId × Bool × Bool × Option (FlowSample α)) × Option (FlowSample α) :=
  (tracker.permanent, tracker.modes.map fun entry => (entry.1, entry.2.latches),
    tracker.total.frozen)

theorem latches_updateTracks (tracker : FlowTracker α) (mode : ModeId)
    {change : Track α → Track α} (keeps : ∀ track, (change track).latches = track.latches) :
    (tracker.updateTracks mode change).latches = tracker.latches := by
  have frozen : (change tracker.total).frozen = tracker.total.frozen :=
    congrArg (·.2.2) (keeps tracker.total)
  have modes : (tracker.updateTracks mode change).modes.map
      (fun entry => (entry.1, entry.2.latches)) =
      tracker.modes.map fun entry => (entry.1, entry.2.latches) := by
    rw [updateTracks, List.map_map]
    refine List.map_congr_left fun entry _ => ?_
    dsimp only [Function.comp_apply]
    split
    · rw [keeps]
    · rfl
  rw [latches, modes]
  exact congrArg (fun frozen => (tracker.permanent, _, frozen)) frozen

theorem latches_record (tracker : FlowTracker α) (event : Event) :
    (tracker.record event).latches = tracker.latches := by
  unfold record
  dsimp only
  split
  · rfl
  · unfold recordVehicle
    split
    · exact latches_updateTracks _ _ fun _ => rfl
    · split
      · rfl
      · exact latches_updateTracks _ _ fun track => (track.leave _).latches_traverse ..
    · split
      · rfl
      · exact latches_updateTracks _ _ fun _ => rfl
    · rfl
    · rfl

/-- That every track is settled once flow is permanent. -/
structure Latched (tracker : FlowTracker α) : Prop where
  modes : tracker.permanent = true → ∀ entry ∈ tracker.modes, entry.2.Settled
  total : tracker.permanent = true → tracker.total.frozen.isSome

theorem Latched.congr {tracker' : FlowTracker α} (latched : tracker.Latched)
    (same : tracker'.latches = tracker.latches) : tracker'.Latched := by
  obtain ⟨permanent, rest⟩ := Prod.mk.inj same
  obtain ⟨modes, total⟩ := Prod.mk.inj rest
  refine ⟨fun now entry listed => ?_, fun now => total ▸ latched.total (permanent ▸ now)⟩
  have kept : (entry.1, entry.2.latches) ∈
      tracker'.modes.map fun entry => (entry.1, entry.2.latches) := List.mem_map_of_mem listed
  rw [modes] at kept
  obtain ⟨old, listed, alike⟩ := List.mem_map.mp kept
  exact (latched.modes (permanent ▸ now) old listed).congr (Prod.mk.inj alike).2.symm

theorem Latched.closeBin (latched : tracker.Latched) : tracker.closeBin.Latched := by
  unfold FlowTracker.closeBin
  dsimp only
  split
  next becomes =>
    -- The streaks that make flow permanent are those of this bin, and so have set the flags by now.
    rw [Bool.and_eq_true, Bool.and_eq_true, List.all_eq_true] at becomes
    obtain ⟨-, -, permanent⟩ := becomes
    refine ⟨fun _ entry listed => ?_, fun _ => rfl⟩
    simp only [freeze, List.mem_map, exists_exists_and_eq_and] at listed
    obtain ⟨before, listed, rfl⟩ := listed
    exact Track.settled_of_isPermanent (permanent _ (List.mem_map_of_mem listed))
  next =>
    refine ⟨fun now entry listed => ?_, latched.total⟩
    obtain ⟨before, member, rfl⟩ := List.mem_map.mp listed
    exact (latched.modes now before member).closeBin

theorem Latched.closeInterval (latched : tracker.Latched) (tick : Tick) :
    (tracker.closeInterval tick).2.Latched := by
  unfold FlowTracker.closeInterval
  split
  · exact latched.closeBin
  · exact latched

theorem Latched.of_new {network : Network α} {table : ModeTable α} {modes : Array ModeId}
    {config : TrackerConfig α} {tickSecs : Nat}
    (made : FlowTracker.new network table modes config tickSecs = .ok first) : first.Latched := by
  obtain ⟨-, -, -, rfl⟩ := new_eq_ok.mp made
  exact ⟨fun now => (by cases now), fun now => (by cases now)⟩

theorem trackedModes_record (tracker : FlowTracker α) (event : Event) :
    (tracker.record event).trackedModes = tracker.trackedModes := by
  have keys := congrArg (fun latches => latches.2.1.map Prod.fst) (latches_record tracker event)
  simp only [latches, List.map_map] at keys
  exact keys

namespace Reaches

theorem trackedModes (reaches : first.Reaches tracker) :
    tracker.trackedModes = first.trackedModes := by
  induction reaches with
  | first => rfl
  | record _ event ih => exact (trackedModes_record _ event).trans ih
  | closeInterval _ tick ih => exact (closeInterval_agrees _ tick).frames.trackedModes.trans ih

theorem latched (reaches : first.Reaches tracker) (latched : first.Latched) : tracker.Latched := by
  induction reaches with
  | first => exact latched
  | record _ event ih => exact ih.congr (latches_record _ event)
  | closeInterval _ tick ih => exact ih.closeInterval tick

end Reaches

theorem track?_isSome (tracker : FlowTracker α) (mode : ModeId) :
    (tracker.track? mode).isSome ↔ mode ∈ tracker.trackedModes := by
  rw [track?, List.lookup_isSome_iff, trackedModes, List.mem_map]
  exact exists_congr fun entry => and_congr_right' (beq_iff_eq.trans eq_comm)

theorem Latched.exists_settled (latched : tracker.Latched) (now : tracker.permanent = true)
    {mode : ModeId} (tracked : mode ∈ tracker.trackedModes) :
    ∃ track, tracker.track? mode = some track ∧ track.Settled := by
  obtain ⟨track, found⟩ := Option.isSome_iff_exists.mp ((tracker.track?_isSome mode).mpr tracked)
  obtain ⟨before, after, parts, -⟩ := List.lookup_eq_some_iff.mp found
  exact ⟨track, found, latched.modes now (mode, track) (parts ▸ List.mem_append_cons_self)⟩

end FlowTracker

end MixedTraffic

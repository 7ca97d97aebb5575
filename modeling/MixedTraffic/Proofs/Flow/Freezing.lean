import MixedTraffic.Proofs.Flow.Streaks
import MixedTraffic.Proofs.Run.History

namespace MixedTraffic

/-! Flow becomes permanent with the first bin after which it is permanent for every mode, and the
samples of that bin are kept for good. -/

variable {α β γ : Type} [Quantity α]

theorem lookup_eq_some_of_mem {key : ModeId} {value : β} {entries : List (ModeId × β)}
    (distinct : (entries.map (·.1)).Nodup) (listed : (key, value) ∈ entries) :
    entries.lookup key = some value := by
  obtain ⟨before, after, rfl⟩ := List.append_of_mem listed
  rw [List.map_append, List.map_cons, List.nodup_middle] at distinct
  refine List.lookup_eq_some_iff.mpr ⟨before, after, rfl, fun entry earlier => ?_⟩
  have among : entry.1 ∈ before.map (·.1) := List.mem_map_of_mem earlier
  exact bne_iff_ne.mpr fun same => distinct.notMem (List.mem_append_left _ (same ▸ among))

theorem lookup_map (change : β → γ) (entries : List (ModeId × β)) (key : ModeId) :
    (entries.map fun entry => (entry.1, change entry.2)).lookup key =
      (entries.lookup key).map change := by
  induction entries with
  | nil => rfl
  | cons entry rest ih =>
      obtain ⟨own, value⟩ := entry
      rw [List.map_cons, List.lookup_cons, List.lookup_cons, ih]
      cases key == own <;> rfl

namespace FlowTracker

variable {first tracker tracker' : FlowTracker α} {bins : List (FlowBin α)}

/-- That all of some modes are permanent after a bin, and there is one. -/
structure PermanentAt (config : TrackerConfig α) (modes : List ModeId) (bins : List (FlowBin α))
    (last : Nat) : Prop where
  tracked : modes ≠ []
  each : ∀ mode ∈ modes, PermanentAfter config (samplesOf mode bins) last

theorem permanentAt_append {config : TrackerConfig α} {modes : List ModeId} {last : Nat}
    (bound : last ≤ bins.length) (more : List (FlowBin α)) :
    PermanentAt config modes (bins ++ more) last ↔ PermanentAt config modes bins last := by
  have same (mode : ModeId) : PermanentAfter config (samplesOf mode (bins ++ more)) last ↔
      PermanentAfter config (samplesOf mode bins) last :=
    permanentAfter_congr fun bin earlier => samplesBy_append (earlier.trans bound) more
  constructor
  · rintro ⟨tracked, each⟩
    exact ⟨tracked, fun mode listed => (same mode).mp (each mode listed)⟩
  · rintro ⟨tracked, each⟩
    exact ⟨tracked, fun mode listed => (same mode).mpr (each mode listed)⟩

structure Tracks (tracker : FlowTracker α) (bins : List (FlowBin α)) : Prop where
  positive : tracker.config.stableBins ≠ 0
  distinct : tracker.trackedModes.Nodup
  count : tracker.bins = bins.length
  listed : ∀ bin ∈ bins, bin.modes.map (·.1) = tracker.trackedModes
  modes : ∀ entry ∈ tracker.modes,
    entry.2.Sampled tracker.config (samplesOf entry.1 bins) bins.length
  total : tracker.total.sample = totals bins bins.length

namespace Tracks

variable (tracks : tracker.Tracks bins)
include tracks

theorem hears (hears : tracker'.Hears tracker) : tracker'.Tracks bins where
  positive := hears.config ▸ tracks.positive
  distinct := hears.trackedModes ▸ tracks.distinct
  count := hears.bins.trans tracks.count
  listed := hears.trackedModes ▸ tracks.listed
  modes entry listed := by
    obtain ⟨track, before, same⟩ := hears.exists_track listed
    rw [hears.config]
    exact (tracks.modes _ before).of_closed same
  total := (congrArg (·.sample) hears.total).trans tracks.total

theorem binned {bin : FlowBin α}
    (modes : bin.modes = tracker.binned.modes.map fun entry => (entry.1, entry.2.sample))
    (total : bin.total = tracker.binned.total.sample) : tracker.binned.Tracks (bins ++ [bin]) := by
  have same := tracker.trackedModes_binned
  have keys : bin.modes.map (·.1) = tracker.trackedModes := by
    rw [modes, List.map_map, ← same]
    rfl
  refine ⟨tracks.positive, same ▸ tracks.distinct, ?_, ?_, ?_, ?_⟩
  · rw [List.length_append, List.length_singleton, ← tracks.count]
    rfl
  · rw [same, List.forall_mem_append]
    exact ⟨tracks.listed, List.forall_mem_singleton.mpr keys⟩
  · intro entry listed
    obtain ⟨⟨mode, track⟩, before, rfl⟩ := List.mem_map.mp listed
    rw [List.length_append, List.length_singleton]
    refine ((tracks.modes _ before).congr fun last bound =>
      samplesBy_append bound [bin]).closeBin ?_
    exact samplesOf_concat <|
      lookup_eq_some_of_mem (keys ▸ tracks.distinct) (modes ▸ List.mem_map_of_mem listed)
  · rw [List.length_append, List.length_singleton, totals, samplesBy_concat, total]
    rfl

theorem permanentAt_iff :
    PermanentAt tracker.config tracker.trackedModes bins bins.length ↔ tracker.AllPermanent := by
  constructor
  · rintro ⟨tracked, each⟩
    refine ⟨fun empty => tracked (by rw [trackedModes, empty]; rfl), fun entry listed => ?_⟩
    exact (tracks.modes entry listed).isPermanent_iff.mpr (each _ (List.mem_map_of_mem listed))
  · rintro ⟨tracked, each⟩
    refine ⟨fun empty => tracked (List.map_eq_nil_iff.mp empty), fun mode listed => ?_⟩
    obtain ⟨entry, member, rfl⟩ := List.mem_map.mp listed
    exact (tracks.modes entry member).isPermanent_iff.mp (each entry member)

theorem freeze : tracker.freeze.Tracks bins := by
  have same := tracker.trackedModes_freeze
  refine ⟨tracks.positive, same ▸ tracks.distinct, tracks.count, same ▸ tracks.listed, ?_,
    tracks.total⟩
  intro entry listed
  obtain ⟨⟨mode, track⟩, before, rfl⟩ := List.mem_map.mp listed
  obtain ⟨window, sample, density, flow, speed, flowStable, speedStable⟩ := tracks.modes _ before
  exact ⟨window, sample, density, flow, speed, flowStable, speedStable⟩

end Tracks

structure Freezes (tracker : FlowTracker α) (bins : List (FlowBin α)) : Prop where
  permanent : tracker.permanent = true ↔
    ∃ bin ≤ bins.length, PermanentAt tracker.config tracker.trackedModes bins bin
  frozen : ∀ bin ≤ bins.length, PermanentAt tracker.config tracker.trackedModes bins bin →
    (∀ earlier < bin, ¬PermanentAt tracker.config tracker.trackedModes bins earlier) →
      tracker.total.frozen = some (totals bins bin) ∧
        ∀ entry ∈ tracker.modes, entry.2.frozen = some (samplesOf entry.1 bins bin)
  unfrozen : tracker.permanent = false →
    tracker.total.frozen = none ∧ ∀ entry ∈ tracker.modes, entry.2.frozen = none

namespace Freezes

theorem hears (freezes : tracker.Freezes bins) (hears : tracker'.Hears tracker) :
    tracker'.Freezes bins := by
  have kept (frozen : ModeId → Option (FlowSample α))
      (before : ∀ entry ∈ tracker.modes, entry.2.frozen = frozen entry.1) :
      ∀ entry ∈ tracker'.modes, entry.2.frozen = frozen entry.1 := by
    intro entry listed
    obtain ⟨track, earlier, same⟩ := hears.exists_track listed
    exact (congrArg (·.frozen) same).trans (before _ earlier)
  have total : tracker'.total.frozen = tracker.total.frozen := congrArg (·.frozen) hears.total
  refine ⟨?_, ?_, ?_⟩
  · rw [hears.permanent, hears.config, hears.trackedModes]
    exact freezes.permanent
  · rw [hears.config, hears.trackedModes, total]
    intro bin bound now first
    obtain ⟨all, each⟩ := freezes.frozen bin bound now first
    exact ⟨all, kept (fun mode => some (samplesOf mode bins bin)) each⟩
  · rw [hears.permanent, total]
    intro never
    obtain ⟨all, each⟩ := freezes.unfrozen never
    exact ⟨all, kept (fun _ => none) each⟩

theorem exists_permanentAt_iff {last : FlowBin α} (tracks : tracker.Tracks (bins ++ [last])) :
    (∃ bin ≤ (bins ++ [last]).length,
      PermanentAt tracker.config tracker.trackedModes (bins ++ [last]) bin) ↔
      (∃ bin ≤ bins.length, PermanentAt tracker.config tracker.trackedModes bins bin) ∨
        tracker.AllPermanent := by
  rw [← tracks.permanentAt_iff, List.length_append, List.length_singleton]
  constructor
  · rintro ⟨bin, bound, now⟩
    obtain rfl | earlier := Nat.eq_or_lt_of_le bound
    · exact .inr now
    · have bound := Nat.le_of_lt_succ earlier
      exact .inl ⟨bin, bound, (permanentAt_append bound _).mp now⟩
  · rintro (⟨bin, bound, now⟩ | now)
    · exact ⟨bin, Nat.le_succ_of_le bound, (permanentAt_append bound _).mpr now⟩
    · exact ⟨_, le_rfl, now⟩

theorem freeze {last : FlowBin α} (tracks : tracker.Tracks (bins ++ [last]))
    (before : ¬∃ bin ≤ bins.length, PermanentAt tracker.config tracker.trackedModes bins bin)
    (becomes : tracker.AllPermanent) : tracker.freeze.Freezes (bins ++ [last]) := by
  refine ⟨iff_of_true rfl ?_, ?_, fun never => nomatch never⟩
  · rw [trackedModes_freeze]
    exact (exists_permanentAt_iff tracks).mpr (.inr becomes)
  · rw [trackedModes_freeze]
    intro bin bound now first
    obtain rfl | earlier := Nat.eq_or_lt_of_le bound
    · refine ⟨congrArg some tracks.total, fun entry listed => ?_⟩
      obtain ⟨⟨mode, track⟩, before, rfl⟩ := List.mem_map.mp listed
      exact congrArg some (tracks.modes _ before).sample
    · rw [List.length_append, List.length_singleton] at earlier
      have bound := Nat.le_of_lt_succ earlier
      exact absurd ⟨bin, bound, (permanentAt_append bound _).mp now⟩ before

theorem binned (freezes : tracker.Freezes bins) {last : FlowBin α}
    (tracks : tracker.binned.Tracks (bins ++ [last]))
    (already : tracker.permanent = true ∨ ¬tracker.binned.AllPermanent) :
    tracker.binned.Freezes (bins ++ [last]) := by
  obtain ⟨permanent, frozen, unfrozen⟩ := freezes
  have more := exists_permanentAt_iff tracks
  rw [trackedModes_binned] at more
  have now : tracker.permanent = true ↔ ∃ bin ≤ (bins ++ [last]).length,
      PermanentAt tracker.config tracker.trackedModes (bins ++ [last]) bin := by
    refine permanent.trans (Iff.trans ?_ more.symm)
    exact (or_iff_left_of_imp fun all =>
      permanent.mp (already.resolve_right (not_not.mpr all))).symm
  refine ⟨?_, ?_, fun never => ?_⟩
  · rw [trackedModes_binned]
    exact now
  · rw [trackedModes_binned]
    intro bin bound becomes first
    have earlier : bin ≤ bins.length := by
      by_contra late
      obtain ⟨old, bound', before⟩ := permanent.mp (now.mpr ⟨bin, bound, becomes⟩)
      exact first old (by omega) ((permanentAt_append bound' _).mpr before)
    obtain ⟨total, each⟩ := frozen bin earlier ((permanentAt_append earlier _).mp becomes)
      fun old before now => first old before
        ((permanentAt_append (before.le.trans earlier) _).mpr now)
    have same (read : FlowBin α → Option (FlowSample α)) :
        samplesBy read (bins ++ [last]) bin = samplesBy read bins bin := samplesBy_append earlier _
    rw [totals, same]
    refine ⟨total, fun entry listed => ?_⟩
    obtain ⟨⟨mode, track⟩, before, rfl⟩ := List.mem_map.mp listed
    exact (each (mode, track) before).trans (congrArg some (same _).symm)
  · obtain ⟨total, each⟩ := unfrozen never
    refine ⟨total, fun entry listed => ?_⟩
    obtain ⟨⟨mode, track⟩, before, rfl⟩ := List.mem_map.mp listed
    exact each (mode, track) before

theorem closes (freezes : tracker.Freezes bins) (tracks : tracker.Tracks bins)
    (closes : tracker.Closes tracker') (tick : Tick) :
    tracker'.Tracks (bins ++ [tracker'.bin tick]) ∧
      tracker'.Freezes (bins ++ [tracker'.bin tick]) := by
  cases closes with
  | freezes before becomes =>
      have tracks : tracker.binned.Tracks (bins ++ [tracker.binned.freeze.bin tick]) :=
        tracks.binned (by rw [FlowTracker.bin, FlowTracker.freeze, List.map_map]; rfl) rfl
      refine ⟨tracks.freeze, freeze tracks ?_ becomes⟩
      rw [trackedModes_binned]
      exact fun already => Bool.false_ne_true (before.symm.trans (freezes.permanent.mpr already))
  | stays already =>
      have tracks : tracker.binned.Tracks (bins ++ [tracker.binned.bin tick]) :=
        tracks.binned rfl rfl
      exact ⟨tracks, freezes.binned tracks already⟩

end Freezes

/-- That a tracker which was made is as the bins make it that it has closed. -/
structure Watches (tracker : FlowTracker α) (bins : List (FlowBin α)) : Prop where
  tracks : tracker.Tracks bins
  freezes : tracker.Freezes bins

namespace Watches

theorem of_new {network : Network α} {table : ModeTable α} {modes : Array ModeId}
    {config : TrackerConfig α} {tickSecs : Nat}
    (made : FlowTracker.new network table modes config tickSecs = .ok first) :
    first.Watches [] := by
  have ready := (Follows.of_new made).ready
  have fresh := fresh_of_new made
  have positive : first.config.stableBins ≠ 0 := fresh.config ▸ fresh.sound.stableBins.ne'
  have never (bin : Nat) (bound : bin ≤ 0) :
      ¬PermanentAt first.config first.trackedModes [] bin := by
    rintro ⟨tracked, each⟩
    obtain ⟨mode, listed⟩ := List.exists_mem_of_ne_nil _ tracked
    exact positive (Nat.le_zero.mp ((each mode listed).density.enough.trans bound))
  refine ⟨⟨positive, ready.distinct, fresh.bins, List.forall_mem_nil _, fun entry listed => ?_, ?_⟩,
    ?_, fun bin bound now => absurd now (never bin bound), fun _ => ⟨?_, fun entry listed => ?_⟩⟩
  · rw [fresh.modes entry listed]
    exact .of_empty positive rfl
  · rw [fresh.total]
    rfl
  · rw [fresh.permanent]
    exact iff_of_false Bool.false_ne_true fun ⟨bin, bound, now⟩ => never bin bound now
  · rw [fresh.total]
    rfl
  · rw [fresh.modes entry listed]
    rfl

theorem pass (watches : tracker.Watches bins) (events : List Event) (tick : Tick) :
    (tracker.pass events tick).2.Watches (bins ++ (tracker.pass events tick).1.toList) := by
  have hears := Hears.foldl_record tracker events
  have heard : (events.foldl record tracker).Watches bins :=
    ⟨watches.tracks.hears hears, watches.freezes.hears hears⟩
  have ends := tracker.ends_pass events tick
  generalize tracker.pass events tick = passed at ends
  cases ends with
  | closes _ closes =>
      obtain ⟨tracks, freezes⟩ := heard.freezes.closes heard.tracks closes tick
      exact ⟨tracks, freezes⟩
  | goesOn => exact (List.append_nil bins).symm ▸ heard

theorem observe (watches : first.Watches []) (intervals : List (List Event)) :
    (first.observe intervals).2.Watches (first.observe intervals).1 := by
  induction intervals using List.reverseRecOn with
  | nil => exact watches
  | append_singleton intervals events ih =>
      rw [observe_append]
      exact ih.pass events intervals.length

end Watches

def frozen (tracker : FlowTracker α) :
    List (ModeId × Option (FlowSample α)) × Option (FlowSample α) :=
  (tracker.modes.map fun entry => (entry.1, entry.2.frozen), tracker.total.frozen)

theorem frozenSample?_eq (tracker : FlowTracker α) (mode : ModeId) :
    tracker.frozenSample? mode = (tracker.frozen.1.lookup mode).join := by
  rw [frozen, lookup_map, frozenSample?, track?]
  cases tracker.modes.lookup mode <;> rfl

theorem Reaches.frozen_eq (reaches : first.Reaches tracker) (now : first.permanent = true) :
    tracker.permanent = true ∧ tracker.frozen = first.frozen := by
  induction reaches with
  | first => exact ⟨now, rfl⟩
  | @record tracker _ event ih =>
      obtain ⟨already, same⟩ := ih
      have hears := Hears.record tracker event
      refine ⟨hears.permanent.trans already, (Prod.ext ?_ ?_ : _ = tracker.frozen).trans same⟩
      · have modes := congrArg (List.map fun entry => (entry.1, entry.2.frozen)) hears.modes
        rw [List.map_map, List.map_map] at modes
        exact modes
      · exact congrArg (·.frozen) hears.total
  | @closeInterval tracker _ tick ih =>
      obtain ⟨already, same⟩ := ih
      have ends := tracker.ends_closeInterval tick
      generalize tracker.closeInterval tick = passed at ends
      cases ends with
      | goesOn => exact ⟨already, same⟩
      | closes _ closes =>
          cases closes with
          | freezes before => exact absurd already (before ▸ Bool.false_ne_true)
          | stays =>
              have kept : tracker.binned.frozen = tracker.frozen := by
                rw [frozen, binned, List.map_map]
                rfl
              exact ⟨already, kept.trans same⟩

/-- What a tracker tells of permanence, from the samples of the bins that it has closed. -/
structure Detects (tracker : FlowTracker α) (config : TrackerConfig α) (bins : List (FlowBin α)) :
    Prop where
  count : tracker.bins = bins.length
  sampled : ∀ bin ∈ bins, bin.modes.map (·.1) = tracker.trackedModes
  isPermanent : ∀ mode ∈ tracker.trackedModes, tracker.isPermanent mode = true ↔
    PermanentAfter config (samplesOf mode bins) bins.length
  isFlowStable : ∀ mode ∈ tracker.trackedModes, tracker.isFlowStable mode = true ↔
    ∃ bin ≤ bins.length,
      StableFor config (samplesOf mode bins) (·.flow) config.stableBins bin
  isSpeedStable : ∀ mode ∈ tracker.trackedModes, tracker.isSpeedStable mode = true ↔
    ∃ bin ≤ bins.length,
      StableFor config (samplesOf mode bins) (·.meanSpeed) config.stableBins bin
  permanent : tracker.permanent = true ↔
    ∃ bin ≤ bins.length, PermanentAt config tracker.trackedModes bins bin
  frozen : ∀ bin ≤ bins.length, PermanentAt config tracker.trackedModes bins bin →
    (∀ earlier < bin, ¬PermanentAt config tracker.trackedModes bins earlier) →
      tracker.total.frozen = some (totals bins bin) ∧
        ∀ mode ∈ tracker.trackedModes,
          tracker.frozenSample? mode = some (samplesOf mode bins bin)
  unfrozen : tracker.permanent = false →
    tracker.total.frozen = none ∧ ∀ mode, tracker.frozenSample? mode = none
  latched : tracker.permanent = true → ∀ later, tracker.Reaches later →
    later.permanent = true ∧ later.total.frozen = tracker.total.frozen ∧
      ∀ mode, later.frozenSample? mode = tracker.frozenSample? mode

theorem Watches.detects (watches : tracker.Watches bins) : tracker.Detects tracker.config bins := by
  obtain ⟨tracks, freezes⟩ := watches
  have found (mode : ModeId) (tracked : mode ∈ tracker.trackedModes) :
      ∃ track, (mode, track) ∈ tracker.modes ∧ tracker.track? mode = some track := by
    obtain ⟨⟨mode, track⟩, listed, rfl⟩ := List.mem_map.mp tracked
    exact ⟨track, listed, lookup_eq_some_of_mem tracks.distinct listed⟩
  refine ⟨tracks.count, tracks.listed, fun mode tracked => ?_, fun mode tracked => ?_,
    fun mode tracked => ?_, freezes.permanent, fun bin bound now first => ?_, fun never => ?_,
    fun now later reaches => ?_⟩
  · obtain ⟨track, listed, found⟩ := found mode tracked
    rw [FlowTracker.isPermanent, found]
    exact (tracks.modes _ listed).isPermanent_iff
  · obtain ⟨track, listed, found⟩ := found mode tracked
    rw [FlowTracker.isFlowStable, found]
    exact (tracks.modes _ listed).flowStable
  · obtain ⟨track, listed, found⟩ := found mode tracked
    rw [FlowTracker.isSpeedStable, found]
    exact (tracks.modes _ listed).speedStable
  · obtain ⟨total, each⟩ := freezes.frozen bin bound now first
    refine ⟨total, fun mode tracked => ?_⟩
    obtain ⟨track, listed, found⟩ := found mode tracked
    rw [frozenSample?, found]
    exact each _ listed
  · obtain ⟨total, each⟩ := freezes.unfrozen never
    refine ⟨total, fun mode => ?_⟩
    rw [frozenSample?]
    cases looked : tracker.track? mode with
    | none => rfl
    | some track =>
        have tracked : mode ∈ tracker.trackedModes :=
          (tracker.track?_isSome mode).mp (looked ▸ rfl)
        obtain ⟨own, listed, same⟩ := found mode tracked
        cases looked.symm.trans same
        exact each _ listed
  · obtain ⟨still, same⟩ := reaches.frozen_eq now
    refine ⟨still, congrArg (·.2) same, fun mode => ?_⟩
    rw [frozenSample?_eq, frozenSample?_eq, same]

/-- Whatever a tracker hears over some intervals, and after them, it detects permanence as the
samples of its bins define it. -/
theorem detects_of_observe {network : Network α} {table : ModeTable α} {modes : Array ModeId}
    {config : TrackerConfig α} {tickSecs : Nat}
    (made : FlowTracker.new network table modes config tickSecs = .ok first)
    (intervals : List (List Event)) (events : List Event) :
    (events.foldl record (first.observe intervals).2).Detects config
      (first.observe intervals).1 := by
  have watches := (Watches.of_new made).observe intervals
  have hears := Hears.foldl_record (first.observe intervals).2 events
  have heard : (events.foldl record (first.observe intervals).2).Watches
      (first.observe intervals).1 :=
    ⟨watches.tracks.hears hears, watches.freezes.hears hears⟩
  have same := (hears.config.trans (first.alike_observe intervals).config).trans
    (fresh_of_new made).config
  exact same ▸ heard.detects

end FlowTracker

namespace Bottleneck

/-- Bins of one interval, two of which make a quantity stable. -/
def hasty : TrackerConfig Rat :=
  { binTicks := 1, windowBins := 1, tolerance := 1, stableBins := 2 }

/-- A vehicle stands still for three intervals, and is stuck in the fourth. -/
def standstill : List (List Event) :=
  [[⟨0, .linkEntered, ⟨0⟩, entry⟩], [], [], [⟨3, .stuck, ⟨0⟩, entry⟩]]

theorem detects_of_standstill :
    ∃ (network : Network Rat) (first tracker : FlowTracker Rat) (bins : List (FlowBin Rat)),
      draft.build = .ok network ∧ FlowTracker.new network table #[narrow] hasty 1 = .ok first ∧
      first.observe standstill = (bins, tracker) ∧ bins.length = 4 ∧
      tracker.Detects hasty bins ∧ tracker.permanent = true ∧
      tracker.isPermanent narrow = false ∧ tracker.isFlowStable narrow = true ∧
      (tracker.frozenSample? narrow).map (·.density) = some 50 := by
  have ran : (draft.build.toOption.bind fun network =>
      (FlowTracker.new network table #[narrow] hasty 1).toOption.map
        fun (first : FlowTracker Rat) =>
          ((first.observe standstill).1.length, (first.observe standstill).2.permanent,
            (first.observe standstill).2.isPermanent narrow,
            (first.observe standstill).2.isFlowStable narrow,
            ((first.observe standstill).2.frozenSample? narrow).map (·.density))) =
      some (4, true, false, true, some 50) := by decide +kernel
  obtain ⟨network, connected, ran⟩ := Option.bind_eq_some_iff.mp ran
  obtain ⟨first, made, ran⟩ := Option.map_eq_some_iff.mp ran
  rw [Attempt.toOption_eq_some] at connected made
  have detects := FlowTracker.detects_of_observe made standstill []
  generalize observed : first.observe standstill = reached at ran detects
  simp only [Prod.mk.injEq] at ran
  obtain ⟨length, permanent, now, flow, density⟩ := ran
  exact ⟨network, first, reached.2, reached.1, connected, made, observed, length, detects,
    permanent, now, flow, density⟩

end Bottleneck

end MixedTraffic

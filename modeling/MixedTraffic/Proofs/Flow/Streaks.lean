import MixedTraffic.Proofs.Flow.Bins

namespace MixedTraffic

/-! When flow is permanent, told from the samples of the bins alone. Bins are numbered from one on.
Before the first bin there is a sample of nothing. -/

variable {α : Type} [Quantity α]

/-- The sample of no vehicles. -/
def FlowSample.nothing : FlowSample α := ⟨0, Quantity.zero, Quantity.zero, Quantity.zero⟩

/-- The samples of some bins, by the number of the bin. -/
def samplesBy (read : FlowBin α → Option (FlowSample α)) (bins : List (FlowBin α)) :
    Nat → FlowSample α
  | 0 => .nothing
  | bin + 1 => (bins[bin]?.bind read).getD .nothing

/-- The samples of a mode. -/
def samplesOf (mode : ModeId) (bins : List (FlowBin α)) : Nat → FlowSample α :=
  samplesBy (fun bin => bin.modes.lookup mode) bins

/-- The samples of all modes together. -/
def totals (bins : List (FlowBin α)) : Nat → FlowSample α :=
  samplesBy (fun bin => some bin.total) bins

/-- That a quantity is stable in a bin: the window is full, there is a vehicle on the network, and
the quantity has changed little since the bin before. -/
structure StableIn (config : TrackerConfig α) (samples : Nat → FlowSample α)
    (quantity : FlowSample α → α) (bin : Nat) : Prop where
  full : config.windowBins ≤ bin
  present : 0 < (samples bin).agents
  within : Track.within (quantity (samples (bin - 1))) (quantity (samples bin)) config.tolerance

/-- That a quantity is stable in a number of bins, the last of which is given. -/
structure StableFor (config : TrackerConfig α) (samples : Nat → FlowSample α)
    (quantity : FlowSample α → α) (length last : Nat) : Prop where
  enough : length ≤ last
  each : ∀ bin, last < bin + length → bin ≤ last → StableIn config samples quantity bin

/-- That a mode is permanent after a bin: each quantity is stable for long enough. -/
structure PermanentAfter (config : TrackerConfig α) (samples : Nat → FlowSample α) (last : Nat) :
    Prop where
  density : StableFor config samples (·.density) config.stableBins last
  flow : StableFor config samples (·.flow) config.stableBins last
  speed : StableFor config samples (·.meanSpeed) config.stableBins last

section Samples

variable {config : TrackerConfig α} {samples samples' : Nat → FlowSample α}
  {quantity : FlowSample α → α} {read : FlowBin α → Option (FlowSample α)}
  {bins : List (FlowBin α)} {length last : Nat}

theorem samplesBy_append {bin : Nat} (bound : bin ≤ bins.length) (more : List (FlowBin α)) :
    samplesBy read (bins ++ more) bin = samplesBy read bins bin := by
  cases bin with
  | zero => rfl
  | succ bin => rw [samplesBy, samplesBy, List.getElem?_append_left bound]

theorem samplesBy_concat (read : FlowBin α → Option (FlowSample α)) (bins : List (FlowBin α))
    (bin : FlowBin α) :
    samplesBy read (bins ++ [bin]) (bins.length + 1) = (read bin).getD .nothing := by
  rw [samplesBy, List.getElem?_concat_length, Option.bind_some]

theorem samplesOf_concat {mode : ModeId} {bin : FlowBin α} {sample : FlowSample α}
    (found : bin.modes.lookup mode = some sample) :
    samplesOf mode (bins ++ [bin]) (bins.length + 1) = sample := by
  refine (samplesBy_concat _ bins bin).trans ?_
  rw [found, Option.getD_some]

theorem StableFor.congr (stable : StableFor config samples quantity length last)
    (same : ∀ bin ≤ last, samples' bin = samples bin) :
    StableFor config samples' quantity length last := by
  refine ⟨stable.enough, fun bin late bound => ?_⟩
  obtain ⟨full, present, within⟩ := stable.each bin late bound
  refine ⟨full, ?_, ?_⟩
  · rwa [same bin bound]
  · rwa [same bin bound, same _ (Nat.sub_le_of_le_add (Nat.le_succ_of_le bound))]

theorem stableFor_congr (same : ∀ bin ≤ last, samples' bin = samples bin) :
    StableFor config samples' quantity length last ↔
      StableFor config samples quantity length last :=
  ⟨fun stable => stable.congr fun bin bound => (same bin bound).symm,
    fun stable => stable.congr same⟩

theorem permanentAfter_congr (same : ∀ bin ≤ last, samples' bin = samples bin) :
    PermanentAfter config samples' last ↔ PermanentAfter config samples last := by
  constructor
  · rintro ⟨density, flow, speed⟩
    exact ⟨(stableFor_congr same).mp density, (stableFor_congr same).mp flow,
      (stableFor_congr same).mp speed⟩
  · rintro ⟨density, flow, speed⟩
    exact ⟨density.congr same, flow.congr same, speed.congr same⟩

theorem stableFor_zero : StableFor config samples quantity 0 last :=
  ⟨Nat.zero_le _, fun _ late bound => absurd bound (Nat.not_le_of_lt late)⟩

theorem stableFor_succ :
    StableFor config samples quantity (length + 1) (last + 1) ↔
      StableIn config samples quantity (last + 1) ∧
        StableFor config samples quantity length last := by
  constructor
  · rintro ⟨enough, each⟩
    refine ⟨each _ (by omega) le_rfl, Nat.le_of_succ_le_succ enough, fun bin late bound => ?_⟩
    exact each bin (by omega) (by omega)
  · rintro ⟨now, enough, each⟩
    refine ⟨Nat.succ_le_succ enough, fun bin late bound => ?_⟩
    obtain rfl | earlier := Nat.eq_or_lt_of_le bound
    · exact now
    · exact each bin (by omega) (by omega)

/-- That a streak counts for how many of the last bins a quantity has been stable. -/
def Counts (config : TrackerConfig α) (samples : Nat → FlowSample α)
    (quantity : FlowSample α → α) (last streak : Nat) : Prop :=
  ∀ length, length ≤ streak ↔ StableFor config samples quantity length last

theorem Counts.congr {streak : Nat} (counts : Counts config samples quantity last streak)
    (same : ∀ bin ≤ last, samples' bin = samples bin) :
    Counts config samples' quantity last streak :=
  fun length => (counts length).trans (stableFor_congr same).symm

theorem Counts.extend {streak : Nat} {stable : Bool}
    (counts : Counts config samples quantity last streak)
    (now : stable = true ↔ StableIn config samples quantity (last + 1)) :
    Counts config samples quantity (last + 1) (Track.extend streak stable) := by
  intro length
  cases length with
  | zero => exact iff_of_true (Nat.zero_le _) stableFor_zero
  | succ length =>
      rw [stableFor_succ, ← now, ← counts length, Track.extend]
      cases stable <;> simp

theorem Counts.latches {streak : Nat} {flag : Bool}
    (counts : Counts config samples quantity (last + 1) streak)
    (before : flag = true ↔ ∃ bin ≤ last, StableFor config samples quantity length bin) :
    (flag || decide (length ≤ streak)) = true ↔
      ∃ bin ≤ last + 1, StableFor config samples quantity length bin := by
  rw [Bool.or_eq_true, before, decide_eq_true_iff, counts]
  constructor
  · rintro (⟨bin, bound, stable⟩ | stable)
    · exact ⟨bin, Nat.le_succ_of_le bound, stable⟩
    · exact ⟨last + 1, le_rfl, stable⟩
  · rintro ⟨bin, bound, stable⟩
    obtain rfl | earlier := Nat.eq_or_lt_of_le bound
    · exact .inr stable
    · exact .inl ⟨bin, Nat.le_of_lt_succ earlier, stable⟩

end Samples

namespace Track

variable {track track' : Track α} {config : TrackerConfig α} {samples samples' : Nat → FlowSample α}
  {last : Nat} {binSecs measuredKm : α}

structure Sampled (track : Track α) (config : TrackerConfig α) (samples : Nat → FlowSample α)
    (last : Nat) : Prop where
  window : track.window.length = min last config.windowBins
  sample : track.sample = samples last
  density : Counts config samples (·.density) last track.streaks.density
  flow : Counts config samples (·.flow) last track.streaks.flow
  speed : Counts config samples (·.meanSpeed) last track.streaks.speed
  flowStable : track.flowStable = true ↔
    ∃ bin ≤ last, StableFor config samples (·.flow) config.stableBins bin
  speedStable : track.speedStable = true ↔
    ∃ bin ≤ last, StableFor config samples (·.meanSpeed) config.stableBins bin

theorem Sampled.of_empty (positive : config.stableBins ≠ 0) (nothing : samples 0 = .nothing) :
    (empty : Track α).Sampled config samples 0 := by
  have unstarted (quantity : FlowSample α → α) : Counts config samples quantity 0 0 := by
    refine fun length => ⟨fun bound => ?_, fun stable => stable.enough⟩
    rw [Nat.le_zero.mp bound]
    exact stableFor_zero
  have never (quantity : FlowSample α → α) :
      false = true ↔ ∃ bin ≤ 0, StableFor config samples quantity config.stableBins bin := by
    refine iff_of_false Bool.false_ne_true ?_
    rintro ⟨bin, bound, stable⟩
    exact positive (Nat.le_zero.mp (stable.enough.trans bound))
  exact ⟨(Nat.zero_min _).symm, nothing.symm, unstarted _, unstarted _, unstarted _, never _,
    never _⟩

theorem Sampled.congr (sampled : track.Sampled config samples last)
    (same : ∀ bin ≤ last, samples' bin = samples bin) :
    track.Sampled config samples' last where
  window := sampled.window
  sample := sampled.sample.trans (same last le_rfl).symm
  density := sampled.density.congr same
  flow := sampled.flow.congr same
  speed := sampled.speed.congr same
  flowStable := sampled.flowStable.trans <| exists_congr fun _ => and_congr_right fun bound =>
    (stableFor_congr fun bin earlier => same bin (earlier.trans bound)).symm
  speedStable := sampled.speedStable.trans <| exists_congr fun _ => and_congr_right fun bound =>
    (stableFor_congr fun bin earlier => same bin (earlier.trans bound)).symm

theorem Sampled.of_closed (sampled : track.Sampled config samples last)
    (same : track'.closed = track.closed) : track'.Sampled config samples last := by
  have streaks : track'.streaks = track.streaks := congrArg (·.streaks) same
  refine ⟨?_, ?_, ?_, ?_, ?_, ?_, ?_⟩
  · exact (congrArg (·.window.length) same).trans sampled.window
  · exact (congrArg (·.sample) same).trans sampled.sample
  · exact streaks ▸ sampled.density
  · exact streaks ▸ sampled.flow
  · exact streaks ▸ sampled.speed
  · exact (congrArg (·.flowStable = true) same).to_iff.trans sampled.flowStable
  · exact (congrArg (·.speedStable = true) same).to_iff.trans sampled.speedStable

theorem Sampled.isPermanent_iff (sampled : track.Sampled config samples last) :
    track.isPermanent config = true ↔ PermanentAfter config samples last := by
  rw [isPermanent, Streaks.arePermanent, decide_eq_true_iff, sampled.density, sampled.flow,
    sampled.speed]
  exact ⟨fun ⟨density, flow, speed⟩ => ⟨density, flow, speed⟩,
    fun ⟨density, flow, speed⟩ => ⟨density, flow, speed⟩⟩

theorem length_window_closeBin (track : Track α) (config : TrackerConfig α) (binSecs measuredKm : α)
    (full : track.window.length = min last config.windowBins) :
    (track.closeBin config binSecs measuredKm).window.length =
      min (last + 1) config.windowBins := by
  unfold closeBin
  dsimp only
  rw [List.length_append, List.length_singleton, full]
  split <;> simp only [List.length_drop, List.length_append, List.length_singleton, full] <;> omega

def stableNow (track : Track α) (config : TrackerConfig α) (window : List (BinTotals α))
    (next : FlowSample α) (quantity : FlowSample α → α) : Bool :=
  decide (config.windowBins ≤ window.length ∧ 0 < track.agents) &&
    within (quantity track.sample) (quantity next) config.tolerance

theorem streaksOf_eq (track : Track α) (config : TrackerConfig α) (window : List (BinTotals α))
    (next : FlowSample α) :
    track.streaksOf config window next =
      { density := extend track.streaks.density (track.stableNow config window next (·.density))
        flow := extend track.streaks.flow (track.stableNow config window next (·.flow))
        speed :=
          extend track.streaks.speed (track.stableNow config window next (·.meanSpeed)) } := by
  unfold streaksOf
  by_cases counts : config.windowBins ≤ window.length ∧ 0 < track.agents
  · rw [if_neg (by omega)]
    simp [stableNow, counts]
  · rw [if_pos (by omega)]
    simp [stableNow, counts, extend]

theorem streaks_closeBin (track : Track α) (config : TrackerConfig α) (binSecs measuredKm : α) :
    (track.closeBin config binSecs measuredKm).streaks =
      track.streaksOf config (track.closeBin config binSecs measuredKm).window
        (track.closeBin config binSecs measuredKm).sample := rfl

theorem Sampled.stableNow_iff (sampled : track.Sampled config samples last)
    {window : List (BinTotals α)} (length : window.length = min (last + 1) config.windowBins)
    (present : track.agents = (samples (last + 1)).agents) (quantity : FlowSample α → α) :
    track.stableNow config window (samples (last + 1)) quantity = true ↔
      StableIn config samples quantity (last + 1) := by
  rw [stableNow, Bool.and_eq_true, decide_eq_true_iff, length, le_min_iff, sampled.sample, present]
  constructor
  · rintro ⟨⟨⟨full, -⟩, present⟩, within⟩
    exact ⟨full, present, within⟩
  · rintro ⟨full, present, within⟩
    exact ⟨⟨⟨full, le_rfl⟩, present⟩, within⟩

theorem Sampled.closeBin (sampled : track.Sampled config samples last)
    (next : samples (last + 1) = (track.closeBin config binSecs measuredKm).sample) :
    (track.closeBin config binSecs measuredKm).Sampled config samples (last + 1) := by
  have window := track.length_window_closeBin config binSecs measuredKm sampled.window
  have present : track.agents = (samples (last + 1)).agents := (congrArg (·.agents) next).symm
  have stable := sampled.stableNow_iff window present
  have streaks := track.streaks_closeBin config binSecs measuredKm
  rw [streaksOf_eq, ← next] at streaks
  have flow : Counts config samples (·.flow) (last + 1)
      (track.closeBin config binSecs measuredKm).streaks.flow := by
    rw [streaks]
    exact sampled.flow.extend (stable _)
  have speed : Counts config samples (·.meanSpeed) (last + 1)
      (track.closeBin config binSecs measuredKm).streaks.speed := by
    rw [streaks]
    exact sampled.speed.extend (stable _)
  refine ⟨window, next.symm, ?_, flow, speed, flow.latches sampled.flowStable,
    speed.latches sampled.speedStable⟩
  rw [streaks]
  exact sampled.density.extend (stable _)

end Track

end MixedTraffic

import Mathlib.Algebra.BigOperators.Ring.List
import MixedTraffic.Proofs.Flow.Samples

namespace MixedTraffic

/-! A tracker that takes in a history interval by interval closes its bins in time, and each of them
tells of the history up to its end. -/

theorem FlowTracker.Closes.exists_sample {tracker tracker' : FlowTracker Rat}
    (closes : tracker.Closes tracker') {mode : ModeId} {track : Track Rat}
    (listed : (mode, track) ∈ tracker.modes) :
    ∃ track', (mode, track') ∈ tracker'.modes ∧ track'.sample =
      (track.closeBin tracker.config tracker.binSecs tracker.measuredKm).sample := by
  have binned : (mode, track.closeBin tracker.config tracker.binSecs tracker.measuredKm) ∈
      tracker.binned.modes := List.mem_map_of_mem listed
  cases closes with
  | freezes => exact ⟨_, List.mem_map_of_mem binned, rfl⟩
  | stays => exact ⟨_, binned, rfl⟩

theorem FlowTracker.Closes.total_sample {tracker tracker' : FlowTracker Rat}
    (closes : tracker.Closes tracker') : tracker'.total.sample =
      (tracker.total.closeBin tracker.config tracker.binSecs tracker.measuredKm).sample := by
  cases closes <;> rfl

namespace Survey

variable {survey : Survey} {history : List Event} {starts : Nat → Nat} {closed position : Nat}
  {tracker tracker' first : FlowTracker Rat} {bins : List (FlowBin Rat)}
  {intervals : List (List Event)}

def tracked (survey : Survey) : List ModeId :=
  survey.table.modes.filter (survey.modes.contains ·)

section Modes

variable {modes : List ModeId} (distinct : modes.Nodup)
  (complete : ∀ mode ∈ survey.modes, mode ∈ modes)
include distinct complete

theorem sum_covers (agent : AgentId) (amount : Rat) :
    (modes.map fun mode => if survey.covers (· == mode) agent then amount else 0).sum =
      if survey.covers (fun _ => true) agent then amount else 0 := by
  unfold covers
  cases found : survey.modes[agent.index]? with
  | none => simp
  | some own =>
      have listed := complete own (Array.mem_of_getElem? found)
      simp only [Option.any_some, beq_iff_eq, if_true]
      rw [← List.sum_toFinset _ distinct, Finset.sum_ite_eq, if_pos (List.mem_toFinset.mpr listed)]

omit distinct complete in
theorem sum_map_sum {ι : Type} (modes : List ModeId) (parts : Finset ι)
    (amount : ModeId → ι → Rat) :
    (modes.map fun mode => ∑ part ∈ parts, amount mode part).sum =
      ∑ part ∈ parts, (modes.map fun mode => amount mode part).sum := by
  induction modes with
  | nil => simp
  | cons mode rest ih => simp only [List.map_cons, List.sum_cons, ih, Finset.sum_add_distrib]

theorem sum_presentPcu (history : List Event) :
    (modes.map fun mode => survey.presentPcu (· == mode) history).sum =
      survey.presentPcu (fun _ => true) history := by
  simp only [presentPcu, present, Finset.sum_filter]
  rw [sum_map_sum]
  refine Finset.sum_congr rfl fun index _ => ?_
  by_cases here : (stayOf history ⟨index⟩).isSome
  · simpa [here] using sum_covers distinct complete ⟨index⟩ (survey.size ⟨index⟩)
  · simp [here]

theorem sum_entered (history : List Event) (first last : Nat) :
    (modes.map fun mode => (survey.binTotals (· == mode) history first last).enteredPcu).sum =
      (survey.binTotals (fun _ => true) history first last).enteredPcu := by
  simp only [binTotals]
  rw [sum_map_sum]
  refine Finset.sum_congr rfl fun position _ => ?_
  unfold enteredAt
  cases history[position]? with
  | none => simp
  | some event =>
      by_cases enters : event.kind = .linkEntered ∧ event.link = survey.config.referenceLink
      · simpa [enters] using sum_covers distinct complete event.agent (survey.size event.agent)
      · simp [← and_assoc, enters]

end Modes

/-- That the samples of a bin tell of the history up to its end. -/
structure Tells (survey : Survey) (history : List Event) (starts : Nat → Nat)
    (bins : List (FlowBin Rat)) (bin : Nat) : Prop where
  modes : ∀ mode ∈ survey.tracked,
    survey.Measures (· == mode) history (starts (bin - survey.config.windowBins)) (starts bin)
      (min bin survey.config.windowBins) (samplesOf mode bins (bin - 1)) (samplesOf mode bins bin)
  total : survey.Measures (fun _ => true) history (starts (bin - survey.config.windowBins))
    (starts bin) (min bin survey.config.windowBins) (totals bins (bin - 1)) (totals bins bin)
  density : (totals bins bin).density =
    (survey.tracked.map fun mode => (samplesOf mode bins bin).density).sum
  flow : (totals bins bin).flow =
    (survey.tracked.map fun mode => (samplesOf mode bins bin).flow).sum

theorem Tells.append {bin : Nat} (tells : survey.Tells history starts bins bin)
    (bound : bin ≤ bins.length) (more : List (FlowBin Rat)) :
    survey.Tells history starts (bins ++ more) bin := by
  have same (read : FlowBin Rat → Option (FlowSample Rat)) :
      samplesBy read (bins ++ more) bin = samplesBy read bins bin := samplesBy_append bound more
  have before (read : FlowBin Rat → Option (FlowSample Rat)) :
      samplesBy read (bins ++ more) (bin - 1) = samplesBy read bins (bin - 1) :=
    samplesBy_append ((Nat.sub_le ..).trans bound) more
  obtain ⟨modes, total, density, flow⟩ := tells
  simp only [samplesOf, totals] at modes total density flow
  refine ⟨?_, ?_, ?_, ?_⟩ <;> simp only [samplesOf, totals, same, before]
  · exact modes
  · exact total
  · exact density
  · exact flow

/-- The global density and flow are those of the modes together. -/
theorem tells_of_measures {bin : Nat} (distinct : survey.tracked.Nodup)
    (complete : ∀ mode ∈ survey.modes, mode ∈ survey.tracked)
    (modes : ∀ mode ∈ survey.tracked,
      survey.Measures (· == mode) history (starts (bin - survey.config.windowBins)) (starts bin)
        (min bin survey.config.windowBins) (samplesOf mode bins (bin - 1))
        (samplesOf mode bins bin))
    (total : survey.Measures (fun _ => true) history (starts (bin - survey.config.windowBins))
      (starts bin) (min bin survey.config.windowBins) (totals bins (bin - 1)) (totals bins bin)) :
    survey.Tells history starts bins bin := by
  refine ⟨modes, total, ?_, ?_⟩
  · rw [List.map_congr_left fun mode listed => (modes mode listed).density, total.density,
      ← sum_presentPcu distinct complete]
    simp only [div_eq_mul_inv]
    rw [List.sum_map_mul_right]
  · rw [List.map_congr_left fun mode listed => (modes mode listed).flow, total.flow,
      ← sum_entered distinct complete]
    simp only [div_eq_mul_inv]
    rw [List.sum_map_mul_right, List.sum_map_mul_left]

theorem Equips.binSecs (equips : survey.Equips tracker) :
    tracker.binSecs = ((survey.config.binTicks * survey.tickSecs : Nat) : Rat) := by
  rw [FlowTracker.binSecs, equips.config, equips.tickSecs]

theorem Reads.closes (reads : survey.Reads history starts closed position tracker)
    (closes : tracker.Closes tracker') (ends : starts (closed + 1) = position) :
    survey.Reads history starts (closed + 1) position tracker' := by
  have alike := closes.alike
  have ready : tracker'.Ready := by
    refine reads.ready.of_frames ⟨alike.agentModes, alike.pcu, closes.trackedModes, ?_⟩
    cases closes <;> rfl
  have binned (entry : ModeId × Track Rat) (listed : entry ∈ tracker.binned.modes) :
      survey.Collects (· == entry.1) history starts (closed + 1) position entry.2 := by
    obtain ⟨⟨mode, track⟩, before, rfl⟩ := List.mem_map.mp listed
    exact (reads.modes _ before).closeBin _ _ reads.equips.config ends
  have total := reads.total.closeBin tracker.binSecs tracker.measuredKm reads.equips.config ends
  cases closes with
  | freezes =>
      refine ⟨reads.equips.of_alike alike, ready, reads.entries, fun entry listed => ?_, ?_⟩
      · obtain ⟨⟨mode, track⟩, before, rfl⟩ := List.mem_map.mp listed
        obtain ⟨agents, pcu, current, window⟩ := binned _ before
        exact ⟨agents, pcu, current, window⟩
      · obtain ⟨agents, pcu, current, window⟩ := total
        exact ⟨agents, pcu, current, window⟩
  | stays => exact ⟨reads.equips.of_alike alike, ready, reads.entries, binned, total⟩

theorem Reads.tells (reads : survey.Reads history starts closed position tracker)
    (watches : tracker.Watches bins) (closes : tracker.Closes tracker') (tick : Tick)
    (length : bins.length = closed) (tracked : tracker.trackedModes = survey.tracked)
    (lasts : LeavesLater history) (ascends : ∀ bin, starts bin ≤ starts (bin + 1))
    (ends : starts (closed + 1) = position) :
    survey.Tells history starts (bins ++ [tracker'.bin tick]) (closed + 1) := by
  subst ends
  have after := (watches.freezes.closes watches.tracks closes tick).1
  have full : (bins ++ [tracker'.bin tick]).length = closed + 1 := by
    rw [List.length_append, List.length_singleton, length]
  have before (read : FlowBin Rat → Option (FlowSample Rat)) :
      samplesBy read (bins ++ [tracker'.bin tick]) (closed + 1 - 1) = samplesBy read bins closed :=
    samplesBy_append length.ge _
  have measures {who : ModeId → Bool} {track : Track Rat}
      (collects : survey.Collects who history starts closed (starts (closed + 1)) track) :=
    collects.measures reads.equips.timed lasts reads.equips.config rfl ascends
  rw [← reads.equips.binSecs, ← reads.equips.measuredKm] at measures
  refine tells_of_measures (tracked ▸ reads.ready.distinct) (fun mode own => ?_)
    (fun mode listed => ?_) ?_
  · rw [← tracked]
    exact reads.ready.complete mode (reads.equips.agentModes ▸ own)
  · rw [← tracked] at listed
    obtain ⟨⟨mode, track⟩, counted, rfl⟩ := List.mem_map.mp listed
    obtain ⟨track', counted', same⟩ := closes.exists_sample counted
    have now := (after.modes _ counted').sample
    have old := (watches.tracks.modes _ counted).sample
    rw [full, same] at now
    rw [length, samplesOf, ← before] at old
    exact (now ▸ old ▸ measures (reads.modes _ counted) :)
  · have now := after.total
    have old := watches.tracks.total
    rw [full, closes.total_sample] at now
    rw [length, totals, ← before] at old
    exact (now ▸ old ▸ measures reads.total :)

def heardBy (survey : Survey) (intervals : List (List Event)) (bin : Nat) : Nat :=
  (intervals.take (bin * survey.config.binTicks)).flatten.length

theorem length_flatten_take_le (intervals : List (List Event)) {first last : Nat}
    (bound : first ≤ last) :
    (intervals.take first).flatten.length ≤ (intervals.take last).flatten.length := by
  obtain ⟨more, rfl⟩ := Nat.exists_eq_add_of_le bound
  rw [List.take_add, List.flatten_append, List.length_append]
  exact Nat.le_add_right ..

/-- That a history is of known agents on known links, in an order that can be. -/
structure Fits (survey : Survey) (history : List Event) : Prop where
  listed : ∀ mode ∈ survey.modes, survey.table.contains mode = true
  known : ∀ event ∈ history, event.agent.index < survey.modes.size ∧
    event.link.index < survey.network.links.size
  coherent : Coherent history
  lasts : LeavesLater history

theorem Fits.exists_next (fits : survey.Fits history) {event : Event}
    (found : history[position]? = some event) :
    ∃ mode type, survey.Next history position event mode type := by
  obtain ⟨bound, rfl⟩ := List.getElem?_eq_some_iff.mp found
  obtain ⟨agent, link⟩ := fits.known _ (List.getElem_mem bound)
  have own := Array.getElem?_eq_getElem agent
  have contained := fits.listed _ (Array.getElem_mem agent)
  obtain ⟨type, listed⟩ : ∃ type, survey.table.get? survey.modes[history[position].agent.index] =
      some type := ⟨_, Array.getElem?_eq_getElem (of_decide_eq_true contained)⟩
  exact ⟨_, type, found, own, listed, link, fits.coherent position bound,
    fits.lasts position bound⟩

theorem Reads.foldl (fits : survey.Fits history) {events rest : List Event}
    (reads : survey.Reads history starts closed position tracker)
    (coming : history.drop position = events ++ rest) (bound : starts closed ≤ position) :
    survey.Reads history starts closed (position + events.length)
      (events.foldl FlowTracker.record tracker) := by
  induction events generalizing position tracker with
  | nil => exact reads
  | cons event events ih =>
      have found : history[position]? = some event := by
        rw [← Nat.add_zero position, ← List.getElem?_drop, coming]
        rfl
      obtain ⟨mode, type, next⟩ := fits.exists_next found
      have later : history.drop (position + 1) = events ++ rest := by
        rw [← List.drop_drop, coming]
        rfl
      have reads := ih (reads.record next bound) later (Nat.le_succ_of_le bound)
      rw [List.length_cons, Nat.add_comm events.length, ← Nat.add_assoc]
      exact reads

/-- That a tracker has taken in the first of some intervals, and closed its bins in time. -/
structure Observes (survey : Survey) (intervals : List (List Event)) (elapsed : Nat)
    (bins : List (FlowBin Rat)) (tracker : FlowTracker Rat) : Prop where
  reads : survey.Reads intervals.flatten (survey.heardBy intervals)
    (elapsed / survey.config.binTicks) (intervals.take elapsed).flatten.length tracker
  watches : tracker.Watches bins
  tracked : tracker.trackedModes = survey.tracked
  length : bins.length = elapsed / survey.config.binTicks
  ticks : ∀ bin (bound : bin < bins.length),
    bins[bin].tick + 1 = (bin + 1) * survey.config.binTicks
  tells : ∀ bin, 1 ≤ bin → bin ≤ bins.length →
    survey.Tells intervals.flatten (survey.heardBy intervals) bins bin

theorem Observes.pass {elapsed : Nat} (observes : survey.Observes intervals elapsed bins tracker)
    (fits : survey.Fits intervals.flatten) (bound : elapsed < intervals.length) :
    survey.Observes intervals (elapsed + 1)
      (bins ++ (tracker.pass intervals[elapsed] elapsed).1.toList)
      (tracker.pass intervals[elapsed] elapsed).2 := by
  have parts : intervals.flatten = (intervals.take elapsed).flatten ++
      (intervals[elapsed] ++ (intervals.drop (elapsed + 1)).flatten) := by
    conv_lhs => rw [← List.take_append_drop elapsed intervals, List.drop_eq_getElem_cons bound]
    rw [List.flatten_append, List.flatten_cons]
  have coming : intervals.flatten.drop (intervals.take elapsed).flatten.length =
      intervals[elapsed] ++ (intervals.drop (elapsed + 1)).flatten := by
    rw [parts, List.drop_left]
  have whole : (intervals.take (elapsed + 1)).flatten.length =
      (intervals.take elapsed).flatten.length + intervals[elapsed].length := by
    rw [List.take_succ_eq_append_getElem bound, List.flatten_append, List.length_append]
    simp
  have begun : survey.heardBy intervals (elapsed / survey.config.binTicks) ≤
      (intervals.take elapsed).flatten.length :=
    length_flatten_take_le intervals (Nat.div_mul_le_self ..)
  have reads := observes.reads.foldl fits coming begun
  rw [← whole] at reads
  have hears := FlowTracker.Hears.foldl_record tracker intervals[elapsed]
  have heard : (intervals[elapsed].foldl FlowTracker.record tracker).Watches bins :=
    ⟨observes.watches.tracks.hears hears, observes.watches.freezes.hears hears⟩
  have tracked := hears.trackedModes.trans observes.tracked
  have ends := tracker.ends_pass intervals[elapsed] elapsed
  generalize tracker.pass intervals[elapsed] elapsed = passed at ends
  cases ends with
  | @closes tracker' due closes =>
      change survey.Observes intervals (elapsed + 1) (bins ++ [tracker'.bin elapsed]) tracker'
      rw [reads.equips.config] at due
      have count := Nat.succ_div_of_dvd due
      have length : (bins ++ [tracker'.bin elapsed]).length =
          (elapsed + 1) / survey.config.binTicks := by
        rw [List.length_append, List.length_singleton, observes.length, count]
      have now : (elapsed / survey.config.binTicks + 1) * survey.config.binTicks = elapsed + 1 := by
        rw [← count, Nat.div_mul_cancel due]
      have reached : survey.heardBy intervals (elapsed / survey.config.binTicks + 1) =
          (intervals.take (elapsed + 1)).flatten.length := by
        rw [heardBy, now]
      have tells := reads.tells heard closes elapsed observes.length tracked fits.lasts
        (fun bin => length_flatten_take_le intervals (Nat.mul_le_mul_right _ (Nat.le_succ bin)))
        reached
      refine ⟨count ▸ reads.closes closes reached, ?_, closes.trackedModes.trans tracked, length,
        fun bin inside => ?_, fun bin first last => ?_⟩
      · obtain ⟨tracks, freezes⟩ := heard.freezes.closes heard.tracks closes elapsed
        exact ⟨tracks, freezes⟩
      · obtain earlier | late := Nat.lt_or_ge bin bins.length
        · exact (congrArg (·.tick + 1) (List.getElem_append_left earlier)).trans
            (observes.ticks bin earlier)
        · have last : bin = bins.length :=
            (Nat.le_of_lt_succ (by simpa using inside)).antisymm late
          subst last
          refine (congrArg (fun last : FlowBin Rat => last.tick + 1)
            (List.getElem_concat_length rfl _)).trans ?_
          rw [observes.length, now]
          rfl
      · rw [length, count, ← observes.length] at last
        obtain rfl | earlier := Nat.eq_or_lt_of_le last
        · exact observes.length ▸ tells
        · have bound := Nat.le_of_lt_succ earlier
          exact (observes.tells bin first bound).append bound _
  | goesOn within =>
      rw [reads.equips.config] at within
      have count := Nat.succ_div_of_not_dvd within
      rw [Option.toList_none, List.append_nil]
      exact ⟨count ▸ reads, heard, tracked, observes.length.trans count.symm, observes.ticks,
        observes.tells⟩

theorem Observes.of_new (made : FlowTracker.new survey.network survey.table survey.modes
      survey.config survey.tickSecs = .ok first) (intervals : List (List Event)) :
    survey.Observes intervals 0 [] first := by
  have fresh := FlowTracker.fresh_of_new made
  have follows := FlowTracker.Follows.of_new made
  have equips : survey.Equips first := ⟨fresh.timed, fresh.config, fresh.tickSecs, fresh.measuredKm,
    fresh.pcu, fresh.agentModes, fresh.linkLengths⟩
  have nobody (who : ModeId → Bool) : survey.present who [] = ∅ := by
    simp [present, stayOf_nil]
  have starts : survey.heardBy intervals 0 = 0 := by
    simp [heardBy]
  have empty (who : ModeId → Bool) : survey.Collects who intervals.flatten
      (survey.heardBy intervals) 0 0 .empty := by
    refine ⟨?_, ?_, ?_, ?_⟩
    · rw [List.take_zero, nobody]
      rfl
    · rw [presentPcu, List.take_zero, nobody]
      rfl
    · rw [starts, binTotals_self]
      rfl
    · rw [Nat.zero_sub]
      rfl
  have reads : survey.Reads intervals.flatten (survey.heardBy intervals) 0 0 first := by
    refine ⟨equips, follows.ready, fun agent inside => ?_, fun entry listed => ?_, ?_⟩
    · rw [follows.entries agent inside]
      rfl
    · rw [fresh.modes entry listed]
      exact empty _
    · rw [fresh.total]
      exact empty _
  refine ⟨?_, .of_new made, FlowTracker.trackedModes_of_new made, (Nat.zero_div _).symm,
    fun bin inside => absurd inside (Nat.not_lt_zero bin),
    fun bin positive inside => absurd (positive.trans inside) (Nat.not_succ_le_zero 0)⟩
  rw [Nat.zero_div]
  exact reads

theorem Observes.observe (made : FlowTracker.new survey.network survey.table survey.modes
      survey.config survey.tickSecs = .ok first) (fits : survey.Fits intervals.flatten)
    {elapsed : Nat} (bound : elapsed ≤ intervals.length) :
    survey.Observes intervals elapsed (first.observe (intervals.take elapsed)).1
      (first.observe (intervals.take elapsed)).2 := by
  induction elapsed with
  | zero => exact .of_new made intervals
  | succ elapsed ih =>
      have length := List.length_take_of_le (Nat.le_of_succ_le bound)
      have observes := (ih (Nat.le_of_succ_le bound)).pass fits bound
      rw [List.take_succ_eq_append_getElem bound, FlowTracker.observe_append, length]
      exact observes

/-- Over any history a tracker closes its bins in time, with the samples of all tracked modes. Each
of them tells of the vehicles that are on the network then, and of those that entered the reference
link or completed a link in the last bins. -/
theorem observe_tells (made : FlowTracker.new survey.network survey.table survey.modes
      survey.config survey.tickSecs = .ok first)
    (known : ∀ event ∈ intervals.flatten, event.agent.index < survey.modes.size ∧
      event.link.index < survey.network.links.size)
    (coherent : Coherent intervals.flatten) (lasts : LeavesLater intervals.flatten) :
    (first.observe intervals).1.length = intervals.length / survey.config.binTicks ∧
      (∀ bin (bound : bin < (first.observe intervals).1.length),
        (first.observe intervals).1[bin].tick = (bin + 1) * survey.config.binTicks - 1 ∧
          (first.observe intervals).1[bin].modes.map (·.1) = survey.tracked) ∧
      ∀ bin, 1 ≤ bin → bin ≤ (first.observe intervals).1.length →
        survey.Tells intervals.flatten (survey.heardBy intervals)
          (first.observe intervals).1 bin := by
  have fresh := FlowTracker.fresh_of_new made
  have observes := Observes.observe made ⟨fresh.listed, known, coherent, lasts⟩ le_rfl
  rw [List.take_length] at observes
  refine ⟨observes.length, fun bin bound => ⟨?_, ?_⟩, observes.tells⟩
  · rw [← observes.ticks bin bound]
    rfl
  · rw [← observes.tracked]
    exact observes.watches.tracks.listed _ (List.getElem_mem bound)

end Survey

namespace Bottleneck

/-- A wide vehicle passes both links, while a narrow one is stuck on the first. -/
def passages : List (List Event) :=
  [[⟨0, .departed, ⟨0⟩, entry⟩, ⟨0, .linkEntered, ⟨0⟩, entry⟩], [⟨1, .linkEntered, ⟨1⟩, entry⟩],
    [⟨2, .linkLeft, ⟨0⟩, entry⟩, ⟨2, .linkEntered, ⟨0⟩, exit⟩], [],
    [⟨4, .stuck, ⟨1⟩, entry⟩], [⟨5, .linkLeft, ⟨0⟩, exit⟩, ⟨5, .arrived, ⟨0⟩, exit⟩], []]

/-- A survey with bins of two intervals. -/
def survey (network : Network Rat) : Survey where
  network := network
  table := table
  modes := #[wide, narrow]
  config := { binTicks := 2, windowBins := 1 }
  tickSecs := 1

theorem observe_tells_of_passages :
    ∃ (network : Network Rat) (first : FlowTracker Rat) (bins : List (FlowBin Rat)),
      draft.build = .ok network ∧
      FlowTracker.new network table #[wide, narrow] { binTicks := 2, windowBins := 1 } 1 =
        .ok first ∧
      Coherent passages.flatten ∧ LeavesLater passages.flatten ∧
      (first.observe passages).1 = bins ∧ bins.length = 3 ∧
      (survey network).Tells passages.flatten ((survey network).heardBy passages) bins 2 ∧
      (totals bins 2).agents = 2 ∧ (totals bins 2).flow = 3600 ∧ (totals bins 2).meanSpeed = 5 := by
  have ran : (draft.build.toOption.bind fun network =>
      (FlowTracker.new network table #[wide, narrow] { binTicks := 2, windowBins := 1 }
        1).toOption.map fun (first : FlowTracker Rat) =>
          (network.links.size, (first.observe passages).1.length,
            (totals (first.observe passages).1 2).agents,
            (totals (first.observe passages).1 2).flow,
            (totals (first.observe passages).1 2).meanSpeed)) =
      some (2, 3, 2, 3600, 5) := by decide +kernel
  obtain ⟨network, connected, ran⟩ := Option.bind_eq_some_iff.mp ran
  obtain ⟨first, made, ran⟩ := Option.map_eq_some_iff.mp ran
  rw [Attempt.toOption_eq_some] at connected made
  have coherent : Coherent passages.flatten := by decide
  have lasts : LeavesLater passages.flatten := by decide
  have size : network.links.size = 2 := congrArg (·.1) ran
  have known : ∀ event ∈ passages.flatten, event.agent.index < 2 ∧ event.link.index < 2 := by
    decide
  obtain ⟨-, -, tells⟩ := @Survey.observe_tells (survey network) first passages made
    (fun event listed => (known event listed).imp_right fun inside => inside.trans_eq size.symm)
    coherent lasts
  generalize observed : (first.observe passages).1 = bins at ran tells
  simp only [Prod.mk.injEq] at ran
  obtain ⟨-, length, agents, flow, meanSpeed⟩ := ran
  exact ⟨network, first, bins, connected, made, coherent, lasts, observed, length,
    tells 2 (by decide) (by rw [length]; decide), agents, flow, meanSpeed⟩

end Bottleneck

end MixedTraffic

import Mathlib.Tactic.Ring
import MixedTraffic.Proofs.Flow.Freezing
import MixedTraffic.Proofs.Flow.Survey

namespace MixedTraffic

/-! The samples of a tracker are what the history tells that it has taken in. -/

namespace FlowTracker

variable {α : Type} [Quantity α]

def change (tracker : FlowTracker α) (event : Event) (since? : Option Tick) (pcu : α)
    (track : Track α) : Track α :=
  match event.kind, since? with
  | .linkEntered, _ => track.enter pcu (event.link == tracker.config.referenceLink)
  | .linkLeft, some since =>
      (track.leave pcu).traverse (tracker.linkLengths[event.link.index]?.getD Quantity.zero)
        (((event.time - since : Nat) : α) * (tracker.tickSecs : α))
  | .stuck, some _ => track.leave pcu
  | _, _ => track

theorem record_eq {tracker : FlowTracker α} {event : Event} {mode : ModeId} {pcu : α}
    (own : tracker.agentModes[event.agent.index]? = some mode)
    (listed : tracker.pcu[mode.index]? = some pcu) :
    ∃ entries, tracker.record event =
      { tracker with
        entries
        modes := tracker.modes.map fun entry => (entry.1,
          if entry.1 = mode then tracker.change event (tracker.entry? event.agent) pcu entry.2
          else entry.2)
        total := tracker.change event (tracker.entry? event.agent) pcu tracker.total } := by
  have recorded : tracker.record event = tracker.recordVehicle event mode pcu := by
    simp [record, own, listed]
  rw [recorded, recordVehicle]
  unfold change
  cases event.kind with
  | linkEntered => exact ⟨_, rfl⟩
  | linkLeft =>
      cases tracker.entry? event.agent with
      | none => exact ⟨tracker.entries, by simp⟩
      | some since => exact ⟨_, rfl⟩
  | stuck =>
      cases tracker.entry? event.agent with
      | none => exact ⟨tracker.entries, by simp⟩
      | some since => exact ⟨_, rfl⟩
  | departed | arrived => exact ⟨tracker.entries, by simp⟩

end FlowTracker

namespace Survey

variable {survey : Survey} {who : ModeId → Bool} {history : List Event} {event : Event}
  {mode : ModeId} {type : VehicleType Rat} {position closed : Nat} {starts : Nat → Nat}
  {track : Track Rat} {tracker : FlowTracker Rat}

theorem size_nonneg (survey : Survey) (agent : AgentId) : 0 ≤ survey.size agent := by
  unfold size
  cases found : survey.modes[agent.index]?.bind survey.table.get? with
  | none => exact le_rfl
  | some type =>
      obtain ⟨mode, -, listed⟩ := Option.bind_eq_some_iff.mp found
      exact (ModeTable.positive listed).1.le

/-- That a track counts the vehicles of some modes, up to a position of the history. -/
structure Collects (survey : Survey) (who : ModeId → Bool) (history : List Event)
    (starts : Nat → Nat) (closed position : Nat) (track : Track Rat) : Prop where
  agents : track.agents = (survey.present who (history.take position)).card
  pcu : track.pcu = survey.presentPcu who (history.take position)
  current : track.current = survey.binTotals who history (starts closed) position
  window : track.window =
    ((List.range closed).drop (closed - survey.config.windowBins)).map fun bin =>
      survey.binTotals who history (starts bin) (starts (bin + 1))

structure Equips (survey : Survey) (tracker : FlowTracker Rat) : Prop where
  timed : 0 < survey.tickSecs
  config : tracker.config = survey.config
  tickSecs : tracker.tickSecs = survey.tickSecs
  measuredKm : tracker.measuredKm = survey.config.metres survey.network / 1000
  pcu : tracker.pcu = survey.table.types.map (·.pcu)
  agentModes : tracker.agentModes = survey.modes
  linkLengths : tracker.linkLengths = survey.network.links.map (·.length)

section Event

variable (next : survey.Next history position event mode type)
  (collects : survey.Collects who history starts closed position track)
  (bound : starts closed ≤ position)
include next collects bound

theorem Collects.pass (other : who mode = false) :
    survey.Collects who history starts closed (position + 1) track := by
  have same : survey.present who (history.take (position + 1)) =
      survey.present who (history.take position) := by
    rw [next.present, if_neg (by simp [other])]
  refine ⟨same ▸ collects.agents, ?_, ?_, collects.window⟩
  · rw [presentPcu, same]
    exact collects.pcu
  · rw [binTotals_succ bound, distanceAt, durationAt, next.enteredAt, next.completedAt]
    simp [other, collects.current]

theorem Collects.enter (covered : who mode = true) (entered : event.kind = .linkEntered) :
    survey.Collects who history starts closed (position + 1)
      (track.enter type.pcu (event.link == survey.config.referenceLink)) := by
  have fresh := next.fits.of_entered entered
  have absent : event.agent.index ∉ survey.present who (history.take position) := by
    rw [present, Finset.mem_filter, fresh]
    simp
  have more : survey.present who (history.take (position + 1)) =
      insert event.agent.index (survey.present who (history.take position)) := by
    rw [next.present, if_pos covered, Event.stay, entered]
    rfl
  refine ⟨?_, ?_, ?_, collects.window⟩
  · rw [more, Finset.card_insert_of_notMem absent, ← collects.agents]
    rfl
  · rw [presentPcu, more, Finset.sum_insert absent, next.size, add_comm, ← presentPcu,
      ← collects.pcu]
    rfl
  · rw [binTotals_succ bound, distanceAt, durationAt, next.enteredAt, next.completedAt, Track.enter,
      collects.current]
    by_cases reference : event.link = survey.config.referenceLink
    · simp [entered, covered, reference]
    · simp [entered, covered, reference]

omit bound in
theorem Collects.gone {stay : Stay} (covered : who mode = true)
    (gone : event.kind = .linkLeft ∨ event.kind = .stuck)
    (here : stayOf (history.take position) event.agent = some stay) :
    (track.leave type.pcu).agents = (survey.present who (history.take (position + 1))).card ∧
      (track.leave type.pcu).pcu = survey.presentPcu who (history.take (position + 1)) := by
  have among : event.agent.index ∈ survey.present who (history.take position) := by
    rw [present, Finset.mem_filter, Finset.mem_range, here, next.covers]
    exact ⟨(Array.getElem?_eq_some_iff.mp next.own).1, rfl, covered⟩
  have fewer : survey.present who (history.take (position + 1)) =
      (survey.present who (history.take position)).erase event.agent.index := by
    have ends : event.stay position (some stay) = none := by
      unfold Event.stay
      obtain left | stuck := gone
      · rw [left]
      · rw [stuck]
    rw [next.present, if_pos covered, here, ends]
    rfl
  have rest : track.pcu - type.pcu = survey.presentPcu who (history.take (position + 1)) := by
    rw [presentPcu, fewer, Finset.sum_erase_eq_sub among, next.size, collects.pcu, presentPcu]
  constructor
  · rw [fewer, Finset.card_erase_of_mem among, ← collects.agents]
    rfl
  · rw [Track.leave, rest, Quantity.larger_eq_max, Quantity.zero_eq]
    exact max_eq_left (Finset.sum_nonneg fun index _ => survey.size_nonneg ⟨index⟩)

theorem Collects.stuck {stay : Stay} (covered : who mode = true) (stuck : event.kind = .stuck)
    (here : stayOf (history.take position) event.agent = some stay) :
    survey.Collects who history starts closed (position + 1) (track.leave type.pcu) := by
  obtain ⟨agents, pcu⟩ := collects.gone next covered (.inr stuck) here
  refine ⟨agents, pcu, ?_, collects.window⟩
  rw [binTotals_succ bound, distanceAt, durationAt, next.enteredAt, next.completedAt]
  simp [stuck, collects.current, Track.leave]

theorem Collects.leave {stay : Stay} (timed : 0 < survey.tickSecs) (covered : who mode = true)
    (left : event.kind = .linkLeft)
    (here : stayOf (history.take position) event.agent = some stay) :
    survey.Collects who history starts closed (position + 1)
      ((track.leave type.pcu).traverse (survey.linkLength event.link)
        (((event.time - stay.since : Nat) : Rat) * survey.tickSecs)) := by
  obtain ⟨agents, pcu⟩ := collects.gone next covered (.inl left) here
  have lasts := next.lasts left stay here
  have positive : (0 : Rat) < ((event.time - stay.since : Nat) : Rat) * survey.tickSecs := by
    exact_mod_cast Nat.mul_pos (Nat.sub_pos_of_lt lasts) timed
  rw [Track.traverse, Quantity.zero_eq, if_pos positive]
  refine ⟨agents, pcu, ?_, collects.window⟩
  rw [binTotals_succ bound, distanceAt, durationAt, next.enteredAt, next.completedAt, here]
  simp [left, covered, collects.current, Track.leave]

theorem Collects.idle (quiet : event.kind ≠ .linkEntered ∧ event.kind ≠ .linkLeft)
    (same : event.stay position (stayOf (history.take position) event.agent) =
      stayOf (history.take position) event.agent) :
    survey.Collects who history starts closed (position + 1) track := by
  have stays : stayOf (history.take (position + 1)) = stayOf (history.take position) := by
    funext agent
    rw [next.stayOf_eq]
    split
    next own => rw [own, same]
    next => rfl
  have present : survey.present who (history.take (position + 1)) =
      survey.present who (history.take position) := by
    rw [Survey.present, stays, ← Survey.present]
  refine ⟨present ▸ collects.agents, ?_, ?_, collects.window⟩
  · rw [presentPcu, present]
    exact collects.pcu
  · rw [binTotals_succ bound, distanceAt, durationAt, next.enteredAt, next.completedAt]
    simp [quiet, collects.current]

theorem Collects.change (equips : survey.Equips tracker) (covered : who mode = true) :
    survey.Collects who history starts closed (position + 1)
      (tracker.change event ((stayOf (history.take position) event.agent).map (·.since)) type.pcu
        track) := by
  unfold FlowTracker.change
  cases kind : event.kind with
  | linkEntered =>
      rw [equips.config]
      exact collects.enter next bound covered kind
  | linkLeft =>
      obtain ⟨stay, here, -⟩ := next.fits.of_left kind
      have length : (tracker.linkLengths[event.link.index]?).getD Quantity.zero =
          survey.linkLength event.link := by
        rw [equips.linkLengths, Array.getElem?_map, linkLength, Network.link?]
        cases survey.network.links[event.link.index]? <;> rfl
      rw [here, Option.map_some, length, equips.tickSecs]
      exact collects.leave next bound equips.timed covered kind here
  | stuck =>
      cases here : stayOf (history.take position) event.agent with
      | none => exact collects.idle next bound (by simp [kind]) (by rw [here, Event.stay, kind])
      | some stay => exact collects.stuck next bound covered kind here
  | departed | arrived =>
      exact collects.idle next bound (by simp [kind]) (by rw [Event.stay, kind])

end Event

/-- That a tracker has taken in a history up to a position. -/
structure Reads (survey : Survey) (history : List Event) (starts : Nat → Nat)
    (closed position : Nat) (tracker : FlowTracker Rat) : Prop where
  equips : survey.Equips tracker
  ready : tracker.Ready
  entries : ∀ agent : AgentId, agent.index < survey.modes.size →
    tracker.entry? agent = (stayOf (history.take position) agent).map (·.since)
  modes : ∀ entry ∈ tracker.modes,
    survey.Collects (· == entry.1) history starts closed position entry.2
  total : survey.Collects (fun _ => true) history starts closed position tracker.total

theorem presence_map_since (event : Event) (position : Nat) (stay? : Option Stay) :
    event.presence (stay?.map (·.since)) = (event.stay position stay?).map (·.since) := by
  unfold Event.presence Event.stay
  cases event.kind <;> rfl

theorem Equips.of_alike {tracker' : FlowTracker Rat} (equips : survey.Equips tracker)
    (alike : tracker'.Alike tracker) : survey.Equips tracker' where
  timed := equips.timed
  config := alike.config.trans equips.config
  tickSecs := alike.tickSecs.trans equips.tickSecs
  measuredKm := alike.measuredKm.trans equips.measuredKm
  pcu := alike.pcu.trans equips.pcu
  agentModes := alike.agentModes.trans equips.agentModes
  linkLengths := alike.linkLengths.trans equips.linkLengths

theorem Reads.record (reads : survey.Reads history starts closed position tracker)
    (next : survey.Next history position event mode type) (bound : starts closed ≤ position) :
    survey.Reads history starts closed (position + 1) (tracker.record event) := by
  have known : event.agent.index < survey.modes.size :=
    (Array.getElem?_eq_some_iff.mp next.own).1
  have since := reads.entries event.agent known
  have own : tracker.agentModes[event.agent.index]? = some mode :=
    reads.equips.agentModes.symm ▸ next.own
  have listed : tracker.pcu[mode.index]? = some type.pcu := by
    have typed : survey.table.types[mode.index]? = some type := next.listed
    rw [reads.equips.pcu, Array.getElem?_map, typed, Option.map_some]
  rw [← reads.equips.agentModes] at known
  have registers := reads.ready.registers known
  have alike := (FlowTracker.Hears.record tracker event).toAlike
  refine ⟨reads.equips.of_alike alike, reads.ready.of_frames registers.frames,
    fun agent inside => ?_, ?_, ?_⟩
  · rw [registers.entry_eq (reads.ready.sized ▸ known), next.stayOf_eq, since,
      presence_map_since _ position]
    split
    next same => rw [same]
    next => exact reads.entries agent inside
  · obtain ⟨entries, recorded⟩ := FlowTracker.record_eq own listed
    rw [recorded, since]
    intro entry member
    obtain ⟨⟨other, track⟩, before, rfl⟩ := List.mem_map.mp member
    have collects := reads.modes _ before
    dsimp only at collects ⊢
    split
    next same => exact collects.change next bound reads.equips (beq_iff_eq.mpr same.symm)
    next differs => exact collects.pass next bound (beq_eq_false_iff_ne.mpr (Ne.symm differs))
  · obtain ⟨entries, recorded⟩ := FlowTracker.record_eq own listed
    rw [recorded, since]
    exact reads.total.change next bound reads.equips rfl

theorem window_succ (closed size : Nat) :
    (if size < ((List.range closed).drop (closed - size) ++ [closed]).length
      then ((List.range closed).drop (closed - size) ++ [closed]).drop 1
      else (List.range closed).drop (closed - size) ++ [closed]) =
      (List.range (closed + 1)).drop (closed + 1 - size) := by
  rw [List.length_append, List.length_drop, List.length_range, List.length_singleton,
    List.range_succ]
  have whole : (List.range closed).drop (closed - size) ++ [closed] =
      (List.range closed ++ [closed]).drop (closed - size) := by
    rw [List.drop_append_of_le_length (by simp)]
  split
  next full =>
    rw [whole, List.drop_drop]
    exact congrArg (List.drop · _) (by omega)
  next short =>
    rw [whole]
    exact congrArg (List.drop · _) (by omega)

theorem Collects.closeBin {config : TrackerConfig Rat} (binSecs measuredKm : Rat)
    (collects : survey.Collects who history starts closed position track)
    (same : config = survey.config) (ends : starts (closed + 1) = position) :
    survey.Collects who history starts (closed + 1) position
      (track.closeBin config binSecs measuredKm) := by
  have current : [track.current] = [closed].map fun bin =>
      survey.binTotals who history (starts bin) (starts (bin + 1)) := by
    rw [collects.current, List.map_singleton, ends]
  refine ⟨collects.agents, collects.pcu, ?_, ?_⟩
  · rw [ends, binTotals_self]
    rfl
  · rw [Track.closeBin, collects.window, current, ← List.map_append, List.length_map,
      ← List.map_drop, ← apply_ite (List.map _), same, window_succ]

/-- What the bins of a window have collected is what the whole stretch adds up to. -/
theorem sum_window (who : ModeId → Bool) (history : List Event)
    (ascends : ∀ bin, starts bin ≤ starts (bin + 1)) {first last : Nat} (bound : first ≤ last)
    {window : List (BinTotals Rat)}
    (collected : window = ((List.range last).drop first).map fun bin =>
      survey.binTotals who history (starts bin) (starts (bin + 1))) :
    Quantity.sum (window.map (·.enteredPcu)) =
        (survey.binTotals who history (starts first) (starts last)).enteredPcu ∧
      Quantity.sum (window.map (·.distance)) =
        (survey.binTotals who history (starts first) (starts last)).distance ∧
      Quantity.sum (window.map (·.duration)) =
        (survey.binTotals who history (starts first) (starts last)).duration := by
  simp only [collected, List.map_map, Quantity.sum_eq]
  exact ⟨sum_stretches _ ascends bound, sum_stretches _ ascends bound,
    sum_stretches _ ascends bound⟩

section Speed

variable (timed : 0 < survey.tickSecs) (lasts : LeavesLater history)
include timed lasts

theorem durationAt_pos (completed : (survey.completedAt who history position).isSome) :
    0 < survey.durationAt who history position := by
  obtain ⟨⟨event, stay⟩, completed⟩ := Option.isSome_iff_exists.mp completed
  have duration : survey.durationAt who history position =
      ((event.time - stay.since : Nat) : Rat) * survey.tickSecs := by
    rw [durationAt, completed]
    rfl
  obtain ⟨found, left, -, here⟩ := completedAt_eq_some.mp completed
  obtain ⟨bound, rfl⟩ := List.getElem?_eq_some_iff.mp found
  have later := lasts position bound left stay here
  rw [duration]
  exact_mod_cast Nat.mul_pos (Nat.sub_pos_of_lt later) timed

theorem duration_pos_iff (who : ModeId → Bool) (first last : Nat) :
    0 < (survey.binTotals who history first last).duration ↔
      ∃ position ∈ Finset.Ico first last, (survey.completedAt who history position).isSome := by
  have nothing (position : Nat) (incomplete : ¬(survey.completedAt who history position).isSome) :
      survey.durationAt who history position = 0 := by
    rw [durationAt, Option.not_isSome_iff_eq_none.mp incomplete]
    rfl
  constructor
  · contrapose!
    intro incomplete
    refine (Finset.sum_eq_zero fun position inside => nothing position ?_).le
    simp [incomplete position inside]
  · rintro ⟨position, inside, completed⟩
    refine Finset.sum_pos' (fun other _ => ?_)
      ⟨position, inside, durationAt_pos timed lasts completed⟩
    by_cases completed : (survey.completedAt who history other).isSome
    · exact (durationAt_pos timed lasts completed).le
    · exact (nothing other completed).ge

theorem Collects.sampleOf (collects : survey.Collects who history starts closed position track)
    (ascends : ∀ bin, starts bin ≤ starts (bin + 1)) {first last : Nat} (bound : first ≤ last)
    (ends : starts last = position) {window : List (BinTotals Rat)}
    (collected : window = ((List.range last).drop first).map fun bin =>
      survey.binTotals who history (starts bin) (starts (bin + 1))) :
    survey.Measures who history (starts first) position (last - first) track.sample
      (track.sampleOf window ((survey.config.binTicks * survey.tickSecs : Nat) : Rat)
        (survey.config.metres survey.network / 1000)) := by
  subst ends
  obtain ⟨entered, distance, duration⟩ := sum_window who history ascends bound collected
  have positive := duration_pos_iff timed lasts who (starts first) (starts last)
  rw [← duration] at positive
  have length := congrArg List.length collected
  rw [List.length_map, List.length_drop, List.length_range] at length
  refine ⟨collects.agents, congrArg (· / _) collects.pcu, ?_, fun passed => ?_, fun nobody => ?_⟩
  · have flow : (track.sampleOf window ((survey.config.binTicks * survey.tickSecs : Nat) : Rat)
        (survey.config.metres survey.network / 1000)).flow =
        Quantity.sum (window.map (·.enteredPcu)) /
          (window.length * (survey.config.binTicks * survey.tickSecs : Nat)) * (3600 : Nat) := rfl
    rw [flow, entered, length]
    push_cast
    ring
  · rw [← distance, ← duration]
    exact if_pos (positive.mpr passed)
  · refine if_neg fun now => ?_
    obtain ⟨position, inside, completed⟩ := positive.mp now
    rw [nobody position inside] at completed
    cases completed

theorem Collects.measures {config : TrackerConfig Rat}
    (collects : survey.Collects who history starts closed position track)
    (same : config = survey.config) (ends : starts (closed + 1) = position)
    (ascends : ∀ bin, starts bin ≤ starts (bin + 1)) :
    survey.Measures who history (starts (closed + 1 - survey.config.windowBins)) position
      (min (closed + 1) survey.config.windowBins) track.sample
      (track.closeBin config ((survey.config.binTicks * survey.tickSecs : Nat) : Rat)
        (survey.config.metres survey.network / 1000)).sample := by
  rw [← Nat.sub_sub_eq_min]
  exact collects.sampleOf timed lasts ascends (Nat.sub_le ..) ends
    (collects.closeBin 0 0 same ends).window

end Speed

end Survey

end MixedTraffic

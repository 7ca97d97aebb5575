import MixedTraffic.Proofs.Flow.Permanence
import MixedTraffic.Proofs.Lists
import MixedTraffic.Proofs.Run.Tracking
import MixedTraffic.Proofs.Sweep.Point

namespace MixedTraffic

/-! Which points of a sweep the diagram shows, and for which modes they count as unstable. -/

variable {α : Type}

namespace Sweep

theorem rows_of_add {table table' : DiagramTable α} {row : DiagramRow α}
    (added : table.add row = .ok table') : table'.rows.toList = table.rows.toList ++ [row] := by
  unfold DiagramTable.add at added
  dsimp only at added
  split at added
  next => cases added
  next =>
    cases added
    exact Array.toList_push

theorem getElem?_increase (modes : List ModeId) (counts : Array Nat) (mode : ModeId) :
    (modes.foldl (fun counts mode => counts.modify mode.index (· + 1)) counts)[mode.index]? =
      counts[mode.index]?.map (· + modes.count mode) := by
  induction modes generalizing counts with
  | nil => simp
  | cons other rest ih =>
      rw [List.foldl_cons, ih, Array.getElem?_modify]
      by_cases same : other = mode
      · subst same
        rw [if_pos rfl, Option.map_map, List.count_cons_self]
        exact congrArg (Option.map · _)
          (funext fun count => by simp only [Function.comp_apply]; omega)
      · have apart : other.index ≠ mode.index := fun alike => same (congrArg Key.mk alike)
        rw [if_neg apart, List.count_cons_of_ne same]

/-- That counters by mode have gone up by the points that list the mode. -/
def Counts (counts' counts : Array Nat) (lists : DiagramPoint α → List ModeId)
    (points : List (DiagramPoint α)) : Prop :=
  ∀ mode : ModeId, counts'[mode.index]? =
    counts[mode.index]?.map (· + points.countP fun point => decide (mode ∈ lists point))

theorem Counts.push {counts' counts : Array Nat} {lists : DiagramPoint α → List ModeId}
    {points : List (DiagramPoint α)} (counted : Counts counts' counts lists points)
    (distinct : (lists point).Nodup) :
    Counts
      ((lists point).foldl (fun counts mode => counts.modify mode.index (· + 1)) counts') counts
      lists (points ++ [point]) := by
  intro mode
  rw [getElem?_increase, counted mode, Option.map_map]
  refine congrArg (Option.map · _) (funext fun count => ?_)
  rw [Function.comp_apply, distinct.count, List.countP_append, List.countP_singleton, Nat.add_assoc]
  simp only [decide_eq_true_eq]

end Sweep

variable [Quantity α]

theorem Sim.Run.tracker_reaches {σ : Type} {start sim : Sim α σ} {history : List (Interval α)}
    {first tracker : FlowTracker α} (run : Run start history sim)
    (began : start.tracker = some first) (tracked : sim.tracker = some tracker) :
    first.Reaches tracker := by
  induction run generalizing tracker with
  | start =>
      cases began.symm.trans tracked
      exact .first
  | step _ simulated stepped ih =>
      rw [step_tracker simulated stepped, Option.map_eq_some_iff] at tracked
      obtain ⟨earlier, tracked, rfl⟩ := tracked
      rw [← Array.foldl_toList]
      exact ((ih tracked).foldl_record _).closeInterval _
  | ended _ ih => exact ih tracked

namespace FlowTracker

variable {tracker : FlowTracker α} {mode : ModeId}

theorem tracked_of_frozenSample? (frozen : (tracker.frozenSample? mode).isSome) :
    mode ∈ tracker.trackedModes := by
  obtain ⟨sample, frozen⟩ := Option.isSome_iff_exists.mp frozen
  obtain ⟨track, found, -⟩ := Option.bind_eq_some_iff.mp frozen
  exact (tracker.track?_isSome mode).mp (Option.isSome_of_eq_some found)

namespace Latched

variable (latched : tracker.Latched)
include latched

theorem frozenSample? (now : tracker.permanent = true) (tracked : mode ∈ tracker.trackedModes) :
    (tracker.frozenSample? mode).isSome := by
  obtain ⟨track, found, settled⟩ := latched.exists_settled now tracked
  rw [FlowTracker.frozenSample?, found]
  exact settled.frozen

theorem failing_eq_nil (now : tracker.permanent = true) {passes : Track α → Bool}
    (each : ∀ track : Track α, track.Settled → passes track = true) :
    tracker.trackedModes.filter (fun mode => !(tracker.track? mode).any passes) = [] := by
  refine List.filter_eq_nil_iff.mpr fun mode tracked => ?_
  obtain ⟨track, found, settled⟩ := latched.exists_settled now tracked
  simp [found, each track settled]

theorem flowUnstable (now : tracker.permanent = true) (limit : α) :
    (Assessment.ofTracker tracker limit).flowUnstable = [] :=
  latched.failing_eq_nil now fun _ settled => settled.flowStable

theorem speedUnstable (now : tracker.permanent = true) (limit : α) :
    (Assessment.ofTracker tracker limit).speedUnstable = [] :=
  latched.failing_eq_nil now fun _ settled => settled.speedStable

/-- Whether flow is permanent, and not too dense, is all that a run is judged by. -/
theorem isValid_ofTracker (limit : α) :
    (Assessment.ofTracker tracker limit).isValid = true ↔ tracker.permanent = true ∧
      ∃ sample, tracker.total.frozen = some sample ∧ ¬limit < sample.density := by
  rw [Assessment.isValid, Bool.and_eq_true, Bool.and_eq_true]
  constructor
  · rintro ⟨⟨-, now⟩, sparse⟩
    obtain ⟨sample, frozen⟩ := Option.isSome_iff_exists.mp (latched.total now)
    refine ⟨now, sample, frozen, ?_⟩
    simpa [Assessment.ofTracker, frozen] using sparse
  · rintro ⟨now, sample, frozen, sparse⟩
    refine ⟨⟨?_, now⟩, ?_⟩
    · rw [latched.flowUnstable now, latched.speedUnstable now]
      rfl
    · simpa [Assessment.ofTracker, frozen] using sparse

end Latched

end FlowTracker

namespace DiagramPoint

/-- A point has a row if it is valid, and only then. -/
theorem row?_isSome (point : DiagramPoint α) : point.row?.isSome = point.isValid := by
  rw [Bool.eq_iff_iff]
  constructor
  · intro shown
    obtain ⟨row, shown⟩ := Option.isSome_iff_exists.mp shown
    obtain ⟨total, -, shown⟩ := Option.bind_eq_some_iff.mp shown
    obtain ⟨modes, -, shown⟩ := Option.bind_eq_some_iff.mp shown
    by_contra invalid
    rw [if_pos (by simp [invalid])] at shown
    cases shown
  · intro valid
    have sampled := valid
    rw [isValid, Bool.and_eq_true, Bool.and_eq_true] at sampled
    obtain ⟨total, found⟩ := Option.isSome_iff_exists.mp sampled.1.2
    obtain ⟨modes, each⟩ := exists_mapM_id sampled.2
    simp [row?, found, each, valid]

end DiagramPoint

namespace Sweep

variable {sweep sweep' : Sweep α} {agents : List Nat} {tracker : FlowTracker α}
  {point : DiagramPoint α}

/-- That a tracker follows the modes of a point, each of which has a track of its own. -/
structure Tracks (sweep : Sweep α) (agents : List Nat) (tracker : FlowTracker α) : Prop where
  length : agents.length = sweep.table.size
  latched : tracker.Latched
  distinct : tracker.trackedModes.Nodup
  modes : ∀ mode, mode ∈ tracker.trackedModes ↔
    ∃ count, agents[mode.index]? = some count ∧ 0 < count

theorem Tracks.isValid_iff (tracks : sweep.Tracks agents tracker) (summary : RunSummary)
    (overtakes : OvertakeCounter α) :
    (sweep.pointOf agents summary tracker overtakes).isValid = true ↔
      (∀ count ∈ agents, 0 < count) ∧ tracker.permanent = true ∧
        ∃ sample, tracker.total.frozen = some sample ∧ ¬sweep.densityLimit < sample.density := by
  rw [DiagramPoint.isValid, Bool.and_eq_true, Bool.and_eq_true]
  constructor
  · -- A mode without agents is not tracked, and so has no sample.
    rintro ⟨⟨judged, -⟩, sampled⟩
    refine ⟨fun count listed => ?_, (tracks.latched.isValid_ofTracker _).mp judged⟩
    obtain ⟨position, here⟩ := List.mem_iff_getElem?.mp listed
    obtain ⟨inside, -⟩ := List.getElem?_eq_some_iff.mp here
    have sample : (tracker.frozenSample? ⟨position⟩).isSome :=
      List.all_eq_true.mp sampled _
        (List.mem_map_of_mem (ModeTable.mem_modes.mpr (tracks.length ▸ inside)))
    obtain ⟨_, same, beyond⟩ := (tracks.modes _).mp (FlowTracker.tracked_of_frozenSample? sample)
    cases here.symm.trans same
    exact beyond
  · rintro ⟨all, judged⟩
    refine ⟨⟨(tracks.latched.isValid_ofTracker _).mpr judged, tracks.latched.total judged.1⟩, ?_⟩
    refine List.all_eq_true.mpr fun sample listed => ?_
    obtain ⟨mode, known, rfl⟩ := List.mem_map.mp listed
    have inside : mode.index < agents.length := tracks.length ▸ ModeTable.mem_modes.mp known
    exact tracks.latched.frozenSample? judged.1 <|
      (tracks.modes mode).mpr ⟨_, List.getElem?_eq_getElem inside, all _ (List.getElem_mem inside)⟩

/-- That the run of a point ends in a state. -/
def EndsIn (sweep : Sweep α) (agents : List Nat) (sim : Sim α (OvertakeCounter α)) : Prop :=
  ∃ population start summary, sweep.population agents = .ok population ∧
    (sweep.setup population).build = .ok start ∧ start.run {} = .ok (summary, sim)

theorem EndsIn.tracks {sim : Sim α (OvertakeCounter α)} (ends : sweep.EndsIn agents sim)
    (length : agents.length = sweep.table.size) (tracked : sim.tracker = some tracker) :
    sweep.Tracks agents tracker := by
  obtain ⟨population, start, summary, made, built, ended⟩ := ends
  obtain ⟨history, run⟩ := Sim.Run.start.run ended
  obtain ⟨untracked, -⟩ | ⟨config, first, -, began, new⟩ := SimSetup.tracker_of_build built
  · cases untracked
  · have modes := FlowTracker.trackedModes_of_new new
    have reaches := run.tracker_reaches began tracked
    have peoples := peoples_of_population made
    refine ⟨length, reaches.latched (.of_new new), ?_, fun mode => ?_⟩
    · rw [reaches.trackedModes, modes]
      exact sweep.table.nodup_modes.filter _
    · rw [reaches.trackedModes, modes, List.mem_filter, Array.contains_iff_mem]
      refine ⟨fun ⟨_, has⟩ => (peoples.modes mode).mp has,
        fun listed => ⟨?_, (peoples.modes mode).mpr listed⟩⟩
      obtain ⟨count, here, -⟩ := listed
      obtain ⟨inside, -⟩ := List.getElem?_eq_some_iff.mp here
      exact ModeTable.mem_modes.mpr (length ▸ inside)

/-- Sweeps that differ at most in what they have counted. -/
structure Repeats (sweep' sweep : Sweep α) : Prop where
  config : sweep'.config = sweep.config
  table : sweep'.table = sweep.table
  track : sweep'.track = sweep.track

theorem Repeats.addAgents (repeats : sweep'.Repeats sweep) (mode : ModeId) (count : Nat)
    (draft : PopulationDraft) :
    sweep'.addAgents mode count draft = sweep.addAgents mode count draft := by
  induction count generalizing draft with
  | zero => rfl
  | succ count ih => rw [Sweep.addAgents, Sweep.addAgents, ih, repeats.config, repeats.track]

theorem Repeats.population (repeats : sweep'.Repeats sweep) (agents : List Nat) :
    sweep'.population agents = sweep.population agents := by
  simp only [Sweep.population, repeats.addAgents, repeats.config, repeats.table]

theorem Repeats.runPoint {counted : Sweep α} (repeats : sweep'.Repeats sweep)
    (ran : sweep'.runPoint agents = .ok (point, counted)) :
    sweep.runPoint agents = .ok (point, sweep.count point.assessment) ∧
      counted = sweep'.count point.assessment := by
  obtain ⟨population, start, summary, sim, tracker, length, made, built, ended, tracked, rfl,
    rfl⟩ := runPoint_eq_ok ran
  refine ⟨?_, rfl⟩
  rw [repeats.population] at made
  obtain ⟨config, table, track, _, _⟩ := sweep'
  obtain ⟨config', table', track', _, _⟩ := sweep
  obtain ⟨rfl, rfl, rfl⟩ := repeats
  simp only [Sweep.runPoint, Attempt.bind_eq_ok, Attempt.mapError_eq_ok, ConfigError.require_eq_ok]
  refine ⟨(), beq_iff_eq.mpr length, population, made, start, built, (summary, sim), ended, ?_⟩
  simp only [tracked]
  rfl

/-- A point that is added to a sweep is added to the table too if it has a row. -/
theorem advance_eq_ok {progress progress' : SweepProgress α}
    (advanced : advance progress agents = .ok progress') :
    ∃ point counted, progress.sweep.runPoint agents = .ok (point, counted) ∧
      progress'.sweep = counted ∧ progress'.points = progress.points.push point ∧
      progress'.diagram.map (·.rows.toList) =
        progress.diagram.map (·.rows.toList ++ point.row?.toList) := by
  simp only [advance, Attempt.bind_eq_ok, Attempt.mapError_eq_ok] at advanced
  obtain ⟨⟨point, counted⟩, ran, advanced⟩ := advanced
  refine ⟨point, counted, ran, ?_⟩
  split at advanced
  next table row given shown =>
    split at advanced
    next drawn added =>
      cases advanced
      refine ⟨rfl, rfl, ?_⟩
      rw [given, shown]
      exact congrArg some (rows_of_add added)
    next => cases advanced
  next given hidden =>
    cases advanced
    refine ⟨rfl, rfl, ?_⟩
    cases drawn : progress.diagram with
    | none => rfl
    | some table =>
        cases shown : point.row? with
        | none => simp
        | some row => exact (hidden table row drawn shown).elim

theorem exists_tracks (ran : sweep.runPoint agents = .ok (point, sweep')) :
    ∃ sim tracker, sweep.EndsIn agents sim ∧ sim.tracker = some tracker ∧
      sweep.Tracks agents tracker ∧
      ∃ summary overtakes, point = sweep.pointOf agents summary tracker overtakes := by
  obtain ⟨population, start, summary, sim, tracker, length, made, built, ended, tracked, same, -⟩ :=
    runPoint_eq_ok ran
  have ends : sweep.EndsIn agents sim := ⟨population, start, summary, made, built, ended⟩
  exact ⟨sim, tracker, ends, tracked, ends.tracks length tracked, summary, _, same⟩

/-- What a sweep tells of the points that it has run. -/
structure Tells (sweep : Sweep α) (diagram : Option (DiagramTable α)) (done : List (List Nat))
    (progress : SweepProgress α) : Prop where
  repeats : progress.sweep.Repeats sweep
  points : List.Forall₂
    (fun agents point => sweep.runPoint agents = .ok (point, sweep.count point.assessment))
    done progress.points.toList
  rows : progress.diagram.map (·.rows.toList) =
    diagram.map (·.rows.toList ++ progress.points.toList.filterMap (·.row?))
  flowUnstable : Counts progress.sweep.flowUnstable sweep.flowUnstable
    (·.assessment.flowUnstable) progress.points.toList
  speedUnstable : Counts progress.sweep.speedUnstable sweep.speedUnstable
    (·.assessment.speedUnstable) progress.points.toList

namespace Tells

variable {diagram : Option (DiagramTable α)} {done more : List (List Nat)}
  {progress progress' : SweepProgress α}

theorem advance (tells : sweep.Tells diagram done progress)
    (advanced : Sweep.advance progress agents = .ok progress') :
    sweep.Tells diagram (done ++ [agents]) progress' := by
  obtain ⟨point, counted, ran, same, points, rows⟩ := advance_eq_ok advanced
  -- The first sweep would have given the same point, whatever has been counted since.
  obtain ⟨again, rfl⟩ := tells.repeats.runPoint ran
  obtain ⟨sim, tracker, -, -, tracks, summary, overtakes, made⟩ := exists_tracks again
  have whole : progress'.points.toList = progress.points.toList ++ [point] := by
    rw [points, Array.toList_push]
  have flow : point.assessment.flowUnstable.Nodup := made ▸ tracks.distinct.filter _
  have speed : point.assessment.speedUnstable.Nodup := made ▸ tracks.distinct.filter _
  refine ⟨?_, ?_, ?_, ?_, ?_⟩
  · rw [same]
    exact ⟨tells.repeats.config, tells.repeats.table, tells.repeats.track⟩
  · rw [whole]
    exact List.rel_append tells.points (.cons again .nil)
  · have last : [point].filterMap (·.row?) = point.row?.toList := by
      cases shown : point.row? <;> simp [shown]
    calc progress'.diagram.map (·.rows.toList)
        = (progress.diagram.map (·.rows.toList)).map (· ++ point.row?.toList) := by
          rw [rows, Option.map_map]
          rfl
      _ = diagram.map (·.rows.toList ++ progress'.points.toList.filterMap (·.row?)) := by
          rw [tells.rows, Option.map_map, whole, List.filterMap_append, last]
          exact congrArg (Option.map · _) (funext fun table => List.append_assoc ..)
  · rw [whole, same]
    exact tells.flowUnstable.push flow
  · rw [whole, same]
    exact tells.speedUnstable.push speed

theorem foldlM (tells : sweep.Tells diagram done progress)
    (ran : more.foldlM Sweep.advance progress = .ok progress') :
    sweep.Tells diagram (done ++ more) progress' := by
  induction more generalizing done progress with
  | nil =>
      cases ran
      exact (List.append_nil done).symm ▸ tells
  | cons agents rest ih =>
      rw [List.foldlM_cons, Attempt.bind_eq_ok] at ran
      obtain ⟨middle, advanced, ran⟩ := ran
      rw [List.append_cons]
      exact ih (tells.advance advanced) ran

theorem of_run (ran : sweep.run diagram = .ok progress) :
    sweep.Tells diagram sweep.points progress := by
  have start : sweep.Tells diagram [] { sweep, diagram } :=
    ⟨⟨rfl, rfl, rfl⟩, .nil, by simp, fun _ => by simp, fun _ => by simp⟩
  exact start.foldlM ran

end Tells

theorem unstable_of_new {config : SweepConfig α} (made : Sweep.new config = .ok sweep)
    {mode : ModeId} (known : mode ∈ sweep.table.modes) :
    sweep.flowUnstable[mode.index]? = some 0 ∧ sweep.speedUnstable[mode.index]? = some 0 := by
  simp only [Sweep.new, Attempt.bind_eq_ok, Attempt.pure_eq_ok] at made
  obtain ⟨_, -, table, -, _, -, track, -, rfl⟩ := made
  have inside : mode.index < table.size := ModeTable.mem_modes.mp known
  exact ⟨by simp [inside], by simp [inside]⟩

theorem map_some_filterMap_row? (points : List (DiagramPoint α)) :
    (points.filterMap (·.row?)).map some = (points.filter (·.isValid)).map (·.row?) := by
  induction points with
  | nil => rfl
  | cons point rest ih =>
      have shown := point.row?_isSome
      cases row : point.row? with
      | none =>
          rw [row] at shown
          rw [List.filterMap_cons_none row, List.filter_cons_of_neg (by simp [← shown]), ih]
      | some value =>
          rw [row] at shown
          rw [List.filterMap_cons_some row, List.filter_cons_of_pos shown.symm, List.map_cons,
            List.map_cons, ih, row]

/-- A point is valid if and only if it has agents of every mode, and its run has come to permanent
flow that is not too dense. Wherever flow is permanent, no tracked mode counts as unstable, and
each has its sample of the permanent state, as have all together. A new sweep adds the valid points
to the table, in their order, and its counters tell how many points were unstable in a mode. -/
theorem shows_valid_points {α : Type} [Quantity α] :
    (∀ (sweep counted : Sweep α) (agents : List Nat) (point : DiagramPoint α),
      sweep.runPoint agents = .ok (point, counted) →
        ∃ sim tracker, sweep.EndsIn agents sim ∧ sim.tracker = some tracker ∧
          agents.length = sweep.table.size ∧ point.total = tracker.total.frozen ∧
          (point.isValid = true ↔ (∀ count ∈ agents, 0 < count) ∧ tracker.permanent = true ∧
            ∃ sample, tracker.total.frozen = some sample ∧ ¬sweep.densityLimit < sample.density) ∧
          (∀ mode, mode ∈ tracker.trackedModes ↔
            ∃ count, agents[mode.index]? = some count ∧ 0 < count) ∧
          (tracker.permanent = true →
            point.assessment.flowUnstable = [] ∧ point.assessment.speedUnstable = [] ∧
              point.total.isSome ∧ ∀ mode ∈ tracker.trackedModes,
                ∃ sample, point.modes[mode.index]? = some (some sample))) ∧
      (∀ network table modes config tickSecs (first tracker : FlowTracker α),
        FlowTracker.new network table modes config tickSecs = .ok first →
          first.Reaches tracker → tracker.permanent = true →
            (∀ limit, (Assessment.ofTracker tracker limit).flowUnstable = [] ∧
              (Assessment.ofTracker tracker limit).speedUnstable = []) ∧
            tracker.total.frozen.isSome ∧
            ∀ mode ∈ tracker.trackedModes, (tracker.frozenSample? mode).isSome) ∧
      ∀ (config : SweepConfig α) (sweep : Sweep α) (diagram : DiagramTable α)
        (progress : SweepProgress α), Sweep.new config = .ok sweep →
          sweep.run (some diagram) = .ok progress →
            List.Forall₂
              (fun agents point => ∃ counted, sweep.runPoint agents = .ok (point, counted))
              sweep.points progress.points.toList ∧
            (∃ table rows, progress.diagram = some table ∧
              table.rows.toList = diagram.rows.toList ++ rows ∧
              rows.map some = (progress.points.toList.filter (·.isValid)).map (·.row?)) ∧
            ∀ mode ∈ sweep.table.modes,
              progress.sweep.flowUnstable[mode.index]? = some (progress.points.toList.countP
                fun point => decide (mode ∈ point.assessment.flowUnstable)) ∧
              progress.sweep.speedUnstable[mode.index]? = some (progress.points.toList.countP
                fun point => decide (mode ∈ point.assessment.speedUnstable)) := by
  refine ⟨?point, ?tracker, ?sweep⟩
  case point =>
    intro sweep counted agents point ran
    obtain ⟨sim, tracker, ends, tracked, tracks, summary, overtakes, rfl⟩ := exists_tracks ran
    refine ⟨sim, tracker, ends, tracked, tracks.length, rfl, tracks.isValid_iff summary overtakes,
      tracks.modes, fun now => ⟨tracks.latched.flowUnstable now _,
        tracks.latched.speedUnstable now _, tracks.latched.total now, fun mode among => ?_⟩⟩
    obtain ⟨sample, frozen⟩ := Option.isSome_iff_exists.mp (tracks.latched.frozenSample? now among)
    obtain ⟨count, here, -⟩ := (tracks.modes mode).mp among
    obtain ⟨inside, -⟩ := List.getElem?_eq_some_iff.mp here
    refine ⟨sample, ?_⟩
    rw [tracks.length] at inside
    simp [pointOf, ModeTable.modes, inside, frozen]
  case tracker =>
    intro network table modes config tickSecs first tracker made reaches now
    have latched := reaches.latched (.of_new made)
    exact ⟨fun limit => ⟨latched.flowUnstable now limit, latched.speedUnstable now limit⟩,
      latched.total now, fun mode tracked => latched.frozenSample? now tracked⟩
  case sweep =>
    intro config sweep diagram progress made ran
    have tells := Tells.of_run ran
    refine ⟨tells.points.imp fun _ _ same => ⟨_, same⟩, ?_, fun mode known => ?_⟩
    · obtain ⟨table, drawn, rows⟩ := Option.map_eq_some_iff.mp tells.rows
      exact ⟨table, _, drawn, rows, map_some_filterMap_row? _⟩
    · obtain ⟨flow, speed⟩ := unstable_of_new made known
      constructor
      · rw [tells.flowUnstable mode, flow, Option.map_some, Nat.zero_add]
      · rw [tells.speedUnstable mode, speed, Option.map_some, Nat.zero_add]

/-- A sweep over a ring of fifteen metres, with one car and then with three. -/
def shortSweep : SweepConfig Rat where
  modes := ["car"]
  split := [1]
  reduce := 2
  points := .distribution
  departureWindow := 1
  track := { branchLength := 5, subdivision := 1, flowCapacity := 3600, freeSpeed := 10 }
  tracker := { binTicks := 1, windowBins := 1, tolerance := 1, stableBins := 2 }
  run := { endSecs := 4 }

/-- The flow of one car becomes permanent, and that of three is not stable in time. -/
theorem shows_valid_points_of_two :
    ∃ (sweep counted : Sweep Rat) (point : DiagramPoint Rat) (progress : SweepProgress Rat)
      (table : DiagramTable Rat) (sample : FlowSample Rat),
      Sweep.new shortSweep = .ok sweep ∧ sweep.runPoint [1] = .ok (point, counted) ∧
        point.isValid = true ∧ point.assessment.speedUnstable = [] ∧
        point.total = some sample ∧ ¬sweep.densityLimit < sample.density ∧
        (∃ own, point.modes[0]? = some (some own)) ∧
        sweep.run (some sweep.newDiagram) = .ok progress ∧ progress.points.toList.length = 2 ∧
        progress.diagram = some table ∧ table.rows.toList.map some = [point.row?] ∧
        progress.sweep.flowUnstable[0]? = some 1 := by
  have made : ((Sweep.new shortSweep).toOption.bind fun sweep =>
      (sweep.run (some sweep.newDiagram)).toOption.map fun progress =>
        (sweep.points, sweep.table.size, progress.points.toList.map fun point =>
          (point.isValid, point.assessment.flowUnstable))) =
      some ([[1], [3]], 1, [(true, []), (false, [⟨0⟩])]) := by decide +kernel
  simp only [Option.bind_eq_some_iff, Option.map_eq_some_iff, Attempt.toOption_eq_some,
    Prod.mk.injEq] at made
  obtain ⟨sweep, new, progress, ran, points, size, judged⟩ := made
  obtain ⟨run, -, shows⟩ := @shows_valid_points Rat _
  obtain ⟨each, ⟨table, rows, drawn, added, valid⟩, counts⟩ := shows _ _ _ _ new ran
  obtain ⟨counted, -⟩ := counts ⟨0⟩ (ModeTable.mem_modes.mpr (size ▸ Nat.one_pos))
  rw [points] at each
  generalize listed : progress.points.toList = shown at each judged valid counted
  obtain _ | ⟨⟨recorded, first⟩, _ | ⟨second, _ | _⟩⟩ := each
  simp only [List.map_cons, List.map_nil, List.cons.injEq, Prod.mk.injEq, and_true] at judged
  obtain ⟨⟨good, stable⟩, bad, unstable⟩ := judged
  obtain ⟨sim, tracker, -, -, -, total, judges, tracks, permanent⟩ := run _ _ _ _ first
  obtain ⟨-, now, sample, frozen, sparse⟩ := judges.mp good
  obtain ⟨-, speed, -, own⟩ := permanent now
  refine ⟨sweep, recorded, _, progress, table, sample, new, first, good, speed, total.trans frozen,
    sparse, own ⟨0⟩ ((tracks ⟨0⟩).mpr ⟨1, rfl, Nat.one_pos⟩), ran, by simp [listed], drawn, ?_, ?_⟩
  · rw [added]
    simpa [newDiagram, good, bad] using valid
  · rw [counted]
    simp [stable, unstable]

end Sweep

end MixedTraffic

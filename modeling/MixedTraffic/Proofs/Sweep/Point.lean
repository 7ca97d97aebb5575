import MixedTraffic.Proofs.Flow.Presence
import MixedTraffic.Proofs.Run.History
import MixedTraffic.Sweep.Sweep

namespace MixedTraffic

/-! The run of one point of a sweep: who takes part in it, and how it ends. -/

variable {α σ : Type} [Quantity α]

namespace Sim

theorem Run.exists_of_runUntil_error {start sim : Sim α σ} {history : List (Interval α)}
    {observer : Observer α σ} {count : Nat} {stopped : Interrupted (RunError α) (Sim α σ)}
    (run : Run start history sim) (failed : sim.runUntil observer count = .error stopped) :
    ∃ later middle, Run start (history ++ later) middle ∧
      middle.step observer = .error stopped := by
  induction count generalizing history sim with
  | zero => cases failed
  | succ count ih =>
      unfold Sim.runUntil at failed
      split at failed
      · cases failed
      · obtain here | ⟨⟨stop, next⟩, stepped, failed⟩ := Attempt.bind_eq_error.mp failed
        · exact ⟨[], sim, by rwa [List.append_nil], here⟩
        · obtain ⟨interval, reached⟩ := run.next stepped
          cases stop with
          | true => cases failed
          | false =>
              obtain ⟨later, middle, last, failed⟩ := ih reached failed
              exact ⟨interval :: later, middle, by simpa using last, failed⟩

theorem exists_of_run_error {start : Sim α σ} {observer : Observer α σ}
    {stopped : Interrupted (RunError α) (Sim α σ)} (failed : start.run observer = .error stopped) :
    ∃ history sim, Run start history sim ∧ sim.step observer = .error stopped := by
  obtain failed | ⟨sim, -, failed⟩ := Attempt.bind_eq_error.mp failed
  · exact Run.start.exists_of_runUntil_error failed
  · cases failed

end Sim

theorem SimSetup.config_of_build {setup : SimSetup α σ} {cause : RoadError α}
    (failed : setup.build = .error (.road cause)) : ∃ invalid, cause = .config invalid := by
  simp only [build, Roads.ofNetwork, Attempt.bind_eq_error, Attempt.mapError_eq_error,
    Attempt.pure_ne_error, reduceCtorEq, and_false, exists_false, false_or, or_false,
    RunError.road.injEq] at failed
  obtain ⟨_, -, _, -, ⟨_, ⟨invalid, -, rfl⟩, rfl⟩ | ⟨_, -, failed⟩⟩ := failed
  · exact ⟨invalid, rfl⟩
  · cases given : setup.tracker with
    | none => simp [given, Attempt.pure_ne_error] at failed
    | some config =>
        rw [given, Option.mapM_some] at failed
        generalize FlowTracker.new _ _ _ config _ = tracker? at failed
        cases tracker? <;> cases failed

/-- Whether flow can be measured does not depend on who takes part. -/
theorem FlowTracker.exists_new {network : Network α} {table : ModeTable α}
    {modes modes' : Array ModeId} {config : TrackerConfig α} {tickSecs : Nat}
    {tracker : FlowTracker α} (made : new network table modes config tickSecs = .ok tracker)
    (listed : ∀ mode ∈ modes', table.contains mode = true) :
    ∃ tracker', new network table modes' config tickSecs = .ok tracker' := by
  obtain ⟨checked, timed, -, -⟩ := new_eq_ok.mp made
  exact ⟨_, new_eq_ok.mpr ⟨checked, timed, listed, rfl⟩⟩

namespace Sweep

variable {sweep : Sweep α} {draft : PopulationDraft} {present : ModeId → Prop}

/-- That a draft is of circling drivers, with agents of given modes. -/
structure Mans (sweep : Sweep α) (draft : PopulationDraft) (present : ModeId → Prop) : Prop where
  drafted : draft.Drafted
  circling : ∀ agent ∈ draft.agents, agent.driver = .circling sweep.track.ring
  modes : ∀ mode, (∃ agent ∈ draft.agents, agent.mode = mode) ↔ present mode

theorem Mans.imp {present' : ModeId → Prop} (mans : sweep.Mans draft present)
    (same : ∀ mode, present mode ↔ present' mode) : sweep.Mans draft present' :=
  ⟨mans.drafted, mans.circling, fun mode => (mans.modes mode).trans (same mode)⟩

theorem Mans.addJittered (mans : sweep.Mans draft present) (mode : ModeId) (secs window : Nat) :
    sweep.Mans (draft.addJittered mode secs window (.circling sweep.track.ring))
      (fun other => present other ∨ other = mode) := by
  refine ⟨mans.drafted.addJittered .., ?_, fun other => ?_⟩
  · intro agent member
    obtain old | rfl := Array.mem_push.mp member
    · exact mans.circling agent old
    · rfl
  · rw [← mans.modes other]
    constructor
    · rintro ⟨agent, member, own⟩
      obtain old | rfl := Array.mem_push.mp member
      · exact .inl ⟨agent, old, own⟩
      · exact .inr own.symm
    · rintro (⟨agent, old, own⟩ | rfl)
      · exact ⟨agent, Array.mem_push_of_mem _ old, own⟩
      · exact ⟨_, Array.mem_push_self, rfl⟩

theorem Mans.addAgents (mans : sweep.Mans draft present) (mode : ModeId) (count : Nat) :
    sweep.Mans (sweep.addAgents mode count draft)
      (fun other => present other ∨ other = mode ∧ 0 < count) := by
  induction count generalizing draft present with
  | zero => exact mans.imp fun _ => by simp
  | succ count ih =>
      refine (ih (mans.addJittered mode _ _)).imp fun other => ?_
      rw [or_assoc, or_iff_left_of_imp And.left]
      simp

theorem Mans.addAll (mans : sweep.Mans draft present) (entries : List (Nat × Nat)) :
    sweep.Mans (entries.foldl (fun draft (count, mode) => sweep.addAgents ⟨mode⟩ count draft) draft)
      (fun other => present other ∨ ∃ count, (count, other.index) ∈ entries ∧ 0 < count) := by
  induction entries generalizing draft present with
  | nil => exact mans.imp fun _ => by simp
  | cons entry rest ih =>
      obtain ⟨count, mode⟩ := entry
      refine (ih (mans.addAgents ⟨mode⟩ count)).imp fun other => ?_
      obtain ⟨index⟩ := other
      rw [or_assoc]
      refine or_congr_right ?_
      simp only [Key.mk.injEq, List.mem_cons, Prod.mk.injEq, or_and_right, exists_or, and_assoc,
        exists_eq_left]

/-- A population of circling drivers has agents of exactly the modes that it was asked for. -/
structure Peoples (sweep : Sweep α) (agents : List Nat) (population : Population) : Prop where
  populated : ∃ draft : PopulationDraft, draft.Drafted ∧ draft.build sweep.table = .ok population
  circling : ∀ agent ∈ population.agents, agent.driver = .circling sweep.track.ring
  modes : ∀ mode, mode ∈ population.modes ↔ ∃ count, agents[mode.index]? = some count ∧ 0 < count

theorem mans_agents (sweep : Sweep α) (agents : List Nat) :
    sweep.Mans (agents.zipIdx.foldl (fun draft (count, mode) => sweep.addAgents ⟨mode⟩ count draft)
        { seed := sweep.config.run.seed })
      (fun mode => ∃ count, agents[mode.index]? = some count ∧ 0 < count) := by
  have empty : sweep.Mans { seed := sweep.config.run.seed } fun _ => False :=
    ⟨.empty, fun agent member => absurd member (Array.not_mem_empty agent), fun mode => by simp⟩
  refine (empty.addAll agents.zipIdx).imp fun mode => ?_
  simp only [false_or, List.mk_mem_zipIdx_iff_getElem?]

theorem peoples_of_population {agents : List Nat} {population : Population}
    (made : sweep.population agents = .ok population) : sweep.Peoples agents population := by
  have whole := sweep.mans_agents agents
  have built := made
  obtain ⟨-, rfl⟩ := PopulationDraft.build_eq_ok.mp made
  refine ⟨⟨_, whole.drafted, built⟩, whole.circling, fun mode => ?_⟩
  rw [Population.modes, Array.mem_map]
  exact whole.modes mode

theorem exists_population {agents : List Nat} (listed : agents.length ≤ sweep.table.size) :
    ∃ population, sweep.population agents = .ok population := by
  have whole := sweep.mans_agents agents
  refine ⟨_, PopulationDraft.build_eq_ok.mpr ⟨fun agent member => ?_, rfl⟩⟩
  obtain ⟨count, asked, -⟩ := (whole.modes agent.mode).mp ⟨agent, member, rfl⟩
  obtain ⟨within, -⟩ := List.getElem?_eq_some_iff.mp asked
  have contained : sweep.table.contains agent.mode = true :=
    decide_eq_true (within.trans_le listed)
  rw [PopulationDraft.checkAgent, contained, whole.circling agent member]
  rfl

variable {agents : List Nat}

theorem exists_build {population other : Population} {start : Sim α (OvertakeCounter α)}
    (made : sweep.population agents = .ok population)
    (built : (sweep.setup other).build = .ok start) :
    ∃ start', (sweep.setup population).build = .ok start' := by
  have listed : ∀ mode ∈ population.modes, sweep.table.contains mode = true := by
    intro mode member
    obtain ⟨agent, present, rfl⟩ := Array.mem_map.mp member
    obtain ⟨checked, rfl⟩ := PopulationDraft.build_eq_ok.mp made
    exact PopulationDraft.contains_of_checkAgent (checked agent present)
  simp only [SimSetup.build, setup, Option.mapM_some, Attempt.bind_eq_ok, Attempt.mapError_eq_ok,
    Attempt.map_eq_ok] at built ⊢
  obtain ⟨_, checked, _, changes, roads, opened, _, ⟨tracker, tracked, -⟩, -⟩ := built
  obtain ⟨tracker', tracked'⟩ := FlowTracker.exists_new tracked listed
  exact ⟨_, _, checked, _, changes, roads, opened, _, ⟨_, tracked', rfl⟩, rfl⟩

theorem runPoint_eq_ok {sweep' : Sweep α} {point : DiagramPoint α}
    (ran : sweep.runPoint agents = .ok (point, sweep')) :
    ∃ population start summary sim tracker, agents.length = sweep.table.size ∧
      sweep.population agents = .ok population ∧ (sweep.setup population).build = .ok start ∧
      start.run {} = .ok (summary, sim) ∧ sim.tracker = some tracker ∧
      point = sweep.pointOf agents summary tracker sim.bus.memory ∧
      sweep' = sweep.count point.assessment := by
  simp only [runPoint, Attempt.bind_eq_ok, Attempt.mapError_eq_ok, ConfigError.require_eq_ok,
    beq_iff_eq] at ran
  obtain ⟨_, length, population, made, start, built, ⟨summary, sim⟩, ended, ran⟩ := ran
  cases tracked : sim.tracker with
  | none => simp [tracked] at ran
  | some tracker =>
      simp only [tracked, Attempt.pure_eq_ok, Prod.mk.injEq] at ran
      obtain ⟨rfl, rfl⟩ := ran
      exact ⟨population, start, summary, sim, tracker, length, made, built, ended, tracked, rfl,
        rfl⟩

/-- A run that a point cannot be taken from could not be set up, or has failed at a step. -/
theorem runPoint_eq_error {cause : RunError α}
    (failed : sweep.runPoint agents = .error (.run cause)) :
    ∃ population, sweep.population agents = .ok population ∧
      ((sweep.setup population).build = .error cause ∨
        ∃ start history sim stopped, (sweep.setup population).build = .ok start ∧
          Sim.Run start history sim ∧ sim.step {} = .error stopped ∧ stopped.cause = cause) := by
  simp only [runPoint, Attempt.bind_eq_error, Attempt.mapError_eq_error, Attempt.mapError_eq_ok,
    reduceCtorEq, and_false, exists_false, false_or, SweepError.run.injEq] at failed
  obtain ⟨_, -, population, made, ⟨_, failed, rfl⟩ | ⟨start, built, failed⟩⟩ := failed
  · exact ⟨population, made, .inl failed⟩
  · obtain ⟨stopped, failed, rfl⟩ | ⟨⟨summary, sim⟩, -, failed⟩ := failed
    · obtain ⟨history, sim, run, failed⟩ := Sim.exists_of_run_error failed
      exact ⟨population, made, .inr ⟨start, history, sim, stopped, built, run, failed, rfl⟩⟩
    · cases tracked : sim.tracker <;> simp [tracked, Attempt.pure_ne_error] at failed

end Sweep

end MixedTraffic

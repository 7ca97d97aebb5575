import MixedTraffic.Proofs.Run.History

namespace MixedTraffic

/-! How a run comes to its end. It is over at the end time, before an interval in which it has been
cancelled, or after one in which the stop rule holds, and its summary tells which. A wish to cancel
is read from the memory, which may count intervals, so it comes at whatever moment. -/

variable {α σ : Type} [Quantity α]

theorem World.Run.ticks {start world : World α} {history : List (Interval α)}
    (run : Run start history world) :
    history.map (·.summary.tick) = List.range' start.clock.now history.length := by
  induction run with
  | start => rfl
  | step before simulated ih =>
      rw [List.map_append, ih, List.length_append, List.length_singleton, List.range'_concat,
        Nat.one_mul, List.map_singleton, (interval_clock simulated).2, before.clock]

namespace Sim

variable {sim sim' next : Sim α σ} {observer : Observer α σ} {stop : Bool}

/-- That a wish to cancel is there after so many intervals. -/
def IsCancelledAfter (sim : Sim α σ) (observer : Observer α σ) (ticks : Nat) : Prop :=
  ∃ reached, sim.runTicks observer ticks = .ok reached ∧
    reached.isCancelled reached.bus.memory = true

/-- That the stop rule holds in the interval that comes after so many. -/
def StopsIn (sim : Sim α σ) (observer : Observer α σ) (ticks : Nat) : Prop :=
  ∃ reached next, sim.runTicks observer ticks = .ok reached ∧
    reached.step observer = .ok (true, next)

theorem runTicks_succ (stepped : sim.step observer = .ok (stop, next)) (count : Nat) :
    sim.runTicks observer (count + 1) = next.runTicks observer count := by
  rw [runTicks, stepped]
  rfl

theorem isCancelledAfter_zero :
    sim.IsCancelledAfter observer 0 ↔ sim.isCancelled sim.bus.memory = true := by
  simp [IsCancelledAfter, runTicks]

theorem isCancelledAfter_succ (stepped : sim.step observer = .ok (stop, next)) (ticks : Nat) :
    sim.IsCancelledAfter observer (ticks + 1) ↔ next.IsCancelledAfter observer ticks := by
  rw [IsCancelledAfter, runTicks_succ stepped]
  rfl

theorem stopsIn_zero (stepped : sim.step observer = .ok (stop, next)) :
    sim.StopsIn observer 0 ↔ stop = true := by
  simp [StopsIn, runTicks, stepped]

theorem stopsIn_succ (stepped : sim.step observer = .ok (stop, next)) (ticks : Nat) :
    sim.StopsIn observer (ticks + 1) ↔ next.StopsIn observer ticks := by
  rw [StopsIn, runTicks_succ stepped]
  rfl

/-- How a run of at most `count` intervals ends after `ticks` of them. -/
structure EndsAfter (sim : Sim α σ) (observer : Observer α σ) (count ticks : Nat)
    (early cancelled : Bool) : Prop where
  within : ticks ≤ count
  wanted : ∀ before < ticks, ¬sim.IsCancelledAfter observer before
  unstopped : ∀ before, before + 1 < ticks → ¬sim.StopsIn observer before
  stopped : early = true ↔ ∃ last, last + 1 = ticks ∧ sim.StopsIn observer last
  unwanted : cancelled = true → sim.IsCancelledAfter observer ticks
  cut : cancelled = true ↔ early = false ∧ ticks < count

namespace EndsAfter

variable {count ticks : Nat} {early cancelled : Bool}

theorem atOnce (sim : Sim α σ) (observer : Observer α σ) :
    sim.EndsAfter observer 0 0 false false := by
  constructor <;> simp

theorem cancel (wish : sim.isCancelled sim.bus.memory = true) (observer : Observer α σ)
    (count : Nat) : sim.EndsAfter observer (count + 1) 0 false true := by
  constructor
  case unwanted =>
    intro _
    exact isCancelledAfter_zero.mpr wish
  all_goals simp

theorem halt (wanted : ¬sim.isCancelled sim.bus.memory = true)
    (stepped : sim.step observer = .ok (true, next)) (count : Nat) :
    sim.EndsAfter observer (count + 1) 1 true false := by
  constructor
  case wanted =>
    intro before sooner
    rw [Nat.lt_one_iff.mp sooner, isCancelledAfter_zero]
    exact wanted
  case stopped =>
    have stops := (stopsIn_zero stepped).mpr rfl
    exact iff_of_true rfl ⟨0, rfl, stops⟩
  all_goals simp

/-- A run that is neither cancelled nor stopped goes on as it would from the next interval. -/
theorem step (ends : next.EndsAfter observer count ticks early cancelled)
    (wanted : ¬sim.isCancelled sim.bus.memory = true)
    (stepped : sim.step observer = .ok (false, next)) :
    sim.EndsAfter observer (count + 1) (ticks + 1) early cancelled := by
  have goesOn : ¬sim.StopsIn observer 0 := by
    rw [stopsIn_zero stepped]
    exact Bool.false_ne_true
  constructor
  case within => exact Nat.succ_le_succ ends.within
  case wanted =>
    intro before sooner
    cases before with
    | zero => rwa [isCancelledAfter_zero]
    | succ before =>
        rw [isCancelledAfter_succ stepped]
        exact ends.wanted before (Nat.lt_of_succ_lt_succ sooner)
  case unstopped =>
    intro before sooner
    cases before with
    | zero => exact goesOn
    | succ before =>
        rw [stopsIn_succ stepped]
        exact ends.unstopped before (Nat.lt_of_succ_lt_succ sooner)
  case stopped =>
    rw [ends.stopped]
    constructor
    · intro stopped
      rcases stopped with ⟨last, final, stops⟩
      exact ⟨last + 1, congrArg Nat.succ final, (stopsIn_succ stepped last).mpr stops⟩
    · intro stopped
      rcases stopped with ⟨last, final, stops⟩
      cases last with
      | zero => exact absurd stops goesOn
      | succ last => exact ⟨last, Nat.succ.inj final, (stopsIn_succ stepped last).mp stops⟩
  case unwanted =>
    intro wish
    exact (isCancelledAfter_succ stepped ticks).mpr (ends.unwanted wish)
  case cut => rw [ends.cut, Nat.add_lt_add_iff_right]

/-- Only a run that stops in its last interval of all has a flag and still comes to its end time. -/
theorem eq_iff (ends : sim.EndsAfter observer count ticks early cancelled) :
    ticks = count ↔ (early = false ∧ cancelled = false) ∨
      early = true ∧ ∀ before, before + 1 < count → ¬sim.StopsIn observer before := by
  constructor
  · intro whole
    have uncut : cancelled = false := by
      rw [Bool.eq_false_iff]
      intro cut
      exact Nat.ne_of_lt (ends.cut.mp cut).2 whole
    cases early with
    | false => exact .inl ⟨rfl, uncut⟩
    | true =>
        right
        exact ⟨rfl, whole ▸ ends.unstopped⟩
  · intro told
    apply Nat.le_antisymm ends.within
    apply Nat.le_of_not_lt
    intro short
    rcases told with ⟨goesOn, uncut⟩ | ⟨early, unstopped⟩
    · have cut := ends.cut.mpr ⟨goesOn, short⟩
      exact absurd cut (Bool.eq_false_iff.mp uncut)
    · rcases ends.stopped.mp early with ⟨last, rfl, stops⟩
      exact unstopped last short stops

end EndsAfter

/-- The state with what is told of the end added to its counters. -/
def flagged (sim : Sim α σ) (early cancelled : Bool) : Sim α σ :=
  { sim with totals := { sim.totals with
      terminatedEarly := sim.totals.terminatedEarly || early
      cancelled := sim.totals.cancelled || cancelled } }

theorem exists_endsAfter {count : Nat} (ran : sim.runUntil observer count = .ok sim') :
    ∃ ticks last early cancelled, sim.runTicks observer ticks = .ok last ∧
      sim' = last.flagged early cancelled ∧
      sim.EndsAfter observer count ticks early cancelled := by
  induction count generalizing sim with
  | zero =>
      cases ran
      exact ⟨0, sim', false, false, rfl, by simp [flagged], .atOnce sim' observer⟩
  | succ count ih =>
      unfold runUntil at ran
      split at ran
      case isTrue wish =>
        cases ran
        exact ⟨0, sim, false, true, rfl, by simp [flagged], .cancel wish observer count⟩
      case isFalse wanted =>
        simp only [Attempt.bind_eq_ok, Prod.exists] at ran
        obtain ⟨stop, next, stepped, ran⟩ := ran
        cases stop with
        | true =>
            cases Attempt.pure_eq_ok.mp ran
            refine ⟨1, next, true, false, ?_, by simp [flagged], .halt wanted stepped count⟩
            rw [runTicks_succ stepped]
            rfl
        | false =>
            obtain ⟨ticks, last, early, cancelled, reached, same, ends⟩ := ih ran
            refine ⟨ticks + 1, last, early, cancelled, ?_, same,
              ends.step wanted stepped⟩
            rw [runTicks_succ stepped, reached]

theorem flags_of_runTicks {count : Nat} (ran : sim.runTicks observer count = .ok sim') :
    sim'.totals.terminatedEarly = sim.totals.terminatedEarly ∧
      sim'.totals.cancelled = sim.totals.cancelled := by
  induction count generalizing sim with
  | zero =>
      cases ran
      exact ⟨rfl, rfl⟩
  | succ count ih =>
      simp only [runTicks, Attempt.bind_eq_ok, Prod.exists] at ran
      obtain ⟨stop, next, stepped, ran⟩ := ran
      obtain ⟨interval, -, takes⟩ := step_eq_ok stepped
      have flags := ih ran
      rw [takes.totals] at flags
      exact flags

end Sim

theorem SimSetup.config_of_starts {setup : SimSetup α σ} {sim : Sim α σ}
    (built : setup.build = .ok sim) : sim.config = setup.config := by
  simp only [build, Attempt.bind_eq_ok, Attempt.mapError_eq_ok, Attempt.pure_eq_ok] at built
  obtain ⟨_, -, _, -, roads, -, tracker, -, rfl⟩ := built
  rfl

theorem Sim.Run.numbered {setup : SimSetup α σ} {start sim : Sim α σ}
    {history : List (Interval α)} (built : setup.build = .ok start)
    (run : Sim.Run start history sim) :
    sim.now = history.length ∧ history.map (·.summary.tick) = List.range sim.now := by
  obtain ⟨roads, -, world⟩ := (SimSetup.build_eq_ok built).world
  have begins : start.world.clock.now = 0 := by
    rw [world]
    rfl
  have now : sim.now = history.length := by
    rw [Sim.now, run.world.clock, begins]
    exact Nat.zero_add _
  refine ⟨now, ?_⟩
  rw [run.world.ticks, begins, now, List.range_eq_range']

/-- The summary of a run tells which intervals were simulated, and what ended it. It never has both
flags, and a run that was cancelled did not come to its end time. Where the stop rule holds only in
the last interval of all, the run has come to its end time and still counts as terminated early. -/
theorem Sim.run_tells_ending {setup : SimSetup α σ} {start sim : Sim α σ}
    {observer : Observer α σ} {summary : RunSummary} (built : setup.build = .ok start)
    (ran : start.run observer = .ok (summary, sim)) :
    (∃ history, Sim.Run start history sim ∧
        history.map (·.summary.tick) = List.range summary.finalTick) ∧
      (∃ last, start.runTicks observer summary.finalTick = .ok last ∧
        sim = (last.flagged summary.terminatedEarly summary.cancelled).note
          (observer.endRun summary)) ∧
      start.EndsAfter observer setup.config.endTick summary.finalTick summary.terminatedEarly
        summary.cancelled ∧
      summary.finalTick ≤ setup.config.endTick ∧
      ¬(summary.terminatedEarly = true ∧ summary.cancelled = true) ∧
      (summary.finalTick = setup.config.endTick ↔
        (summary.terminatedEarly = false ∧ summary.cancelled = false) ∨
          summary.terminatedEarly = true ∧
            ∀ before, before + 1 < setup.config.endTick → ¬start.StopsIn observer before) := by
  obtain ⟨history, whole⟩ := Run.start.run ran
  rw [List.nil_append] at whole
  simp only [run, Attempt.bind_eq_ok, Attempt.pure_eq_ok, Prod.mk.injEq] at ran
  obtain ⟨ended, ran, rfl, rfl⟩ := ran
  have begins : start.now = 0 := (Run.numbered built .start).1
  rw [begins, Nat.sub_zero, SimSetup.config_of_starts built] at ran
  obtain ⟨ticks, last, early, cancelled, reached, rfl, ends⟩ := exists_endsAfter ran
  have finalTick : (last.flagged early cancelled).summary.finalTick = ticks := by
    obtain ⟨passed, length, before⟩ := Run.start.runTicks reached
    exact (before.numbered built).1.trans length
  have flags := flags_of_runTicks reached
  rw [(SimSetup.build_eq_ok built).totals] at flags
  have terminatedEarly : (last.flagged early cancelled).summary.terminatedEarly = early := by
    change (last.totals.terminatedEarly || early) = early
    rw [flags.1, Bool.false_or]
  have cancels : (last.flagged early cancelled).summary.cancelled = cancelled := by
    change (last.totals.cancelled || cancelled) = cancelled
    rw [flags.2, Bool.false_or]
  rw [finalTick, terminatedEarly, cancels]
  refine ⟨⟨history, whole, ?_⟩, ⟨last, reached, rfl⟩, ends, ends.within, ?_, ?_⟩
  · exact finalTick ▸ (whole.numbered built).2
  · intro both
    have open' := (ends.cut.mp both.2).1
    exact absurd both.1 (Bool.eq_false_iff.mp open')
  · exact ends.eq_iff

namespace Bottleneck

/-- The setup with a wish to cancel once three intervals have been begun. -/
def recalled (network : Network Rat) (population : Population) : SimSetup Rat Nat where
  config := { endSecs := 10 }
  network := network
  table := table
  population := population
  bus := { memory := 0 }
  isCancelled := fun begun => begun == 3

/-- Counts the intervals that are begun. -/
def beginnings : Observer Rat Nat where
  startTick _ begun := begun + 1

theorem run_tells_ending_of_recalled :
    ∃ network population start sim summary history, draft.build = .ok network ∧
      (crowd [(narrow, 0, [entry, exit])]).build table = .ok population ∧
      (recalled network population).build = .ok start ∧
      start.run beginnings = .ok (summary, sim) ∧ summary.cancelled = true ∧
      Sim.Run start history sim ∧ history.map (·.summary.tick) = [0, 1, 2] ∧
      start.EndsAfter beginnings 10 3 false true := by
  have ran : drive? draft [(narrow, 0, [entry, exit])] recalled 0 (fun _ _ start _ =>
        (start.run beginnings).toOption.map fun (summary, _) =>
          (summary.finalTick, summary.terminatedEarly, summary.cancelled)) =
      some (3, false, true) := by decide +kernel
  obtain ⟨network, population, start, _, _, connected, populated, built, -, -, seen⟩ :=
    exists_of_drive? ran
  simp only [Option.map_eq_some_iff, Attempt.toOption_eq_some, Prod.exists,
    Prod.mk.injEq] at seen
  obtain ⟨summary, sim, ran, finalTick, early, cancelled⟩ := seen
  obtain ⟨⟨history, run, ticks⟩, -, ends, -⟩ := Sim.run_tells_ending built ran
  have endTick : RunConfig.endTick { endSecs := 10 } = 10 := by decide
  change start.EndsAfter beginnings (RunConfig.endTick { endSecs := 10 }) _ _ _ at ends
  rw [finalTick] at ticks
  rw [endTick, finalTick, early, cancelled] at ends
  exact ⟨network, population, start, sim, summary, history, connected, populated, built, ran,
    cancelled, run, ticks, ends⟩

/-- The setup with an end time that comes as soon as the last vehicle has arrived. -/
def justInTime (network : Network Rat) (population : Population) : SimSetup Rat Unit where
  config := { endSecs := 2 }
  network := network
  table := table
  population := population
  bus := { memory := () }
  stopRule := some .networkEmpty

/-- A run up to its end time that counts as terminated early. -/
theorem terminated_early_at_end_time :
    ∃ network population start sim summary, draft.build = .ok network ∧
      (crowd [(narrow, 0, [exit])]).build table = .ok population ∧
      (justInTime network population).build = .ok start ∧
      start.run {} = .ok (summary, sim) ∧
      summary.finalTick = (justInTime network population).config.endTick ∧
      summary.terminatedEarly = true := by
  have ran : drive? draft [(narrow, 0, [exit])] justInTime 0 (fun _ _ start _ =>
        (start.run {}).toOption.map fun (summary, _) =>
          (summary.finalTick, summary.terminatedEarly)) = some (2, true) := by decide +kernel
  obtain ⟨network, population, start, _, _, connected, populated, built, -, -, seen⟩ :=
    exists_of_drive? ran
  simp only [Option.map_eq_some_iff, Attempt.toOption_eq_some, Prod.exists,
    Prod.mk.injEq] at seen
  obtain ⟨summary, sim, ran, finalTick, early⟩ := seen
  have endTick : RunConfig.endTick { endSecs := 2 } = 2 := by decide
  exact ⟨network, population, start, sim, summary, connected, populated, built, ran,
    finalTick.trans endTick.symm, early⟩

end Bottleneck

end MixedTraffic

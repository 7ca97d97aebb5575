import Mathlib.Algebra.GroupWithZero.Nat
import MixedTraffic.Network.Draft
import MixedTraffic.Proofs.Run.Course
import MixedTraffic.Run.Sim

namespace MixedTraffic

/-! A run as the history of its intervals, however it is driven: step by step, for a number
of intervals, or to its end and then on. -/

variable {α σ : Type} [Quantity α]

/-- The world in which the next interval is simulated. -/
def Interval.next (interval : Interval α) : World α :=
  { interval.world with clock := interval.world.clock.advance }

def heard (history : List (Interval α)) : List Event :=
  history.flatMap (·.events.toList)

@[simp] theorem heard_append (history later : List (Interval α)) :
    heard (history ++ later) = heard history ++ heard later := List.flatMap_append

@[simp] theorem heard_singleton (interval : Interval α) :
    heard [interval] = interval.events.toList := by simp [heard]

namespace World

inductive Run (start : World α) : List (Interval α) → World α → Prop where
  | start : Run start [] start
  | step {history : List (Interval α)} {world : World α} {flowPermanent : Bool}
      {interval : Interval α}
      (before : Run start history world)
      (simulated : world.interval flowPermanent = .ok interval) :
      Run start (history ++ [interval]) interval.next

/-- What every interval keeps, a run keeps. -/
theorem Run.preserves {start world : World α} {history : List (Interval α)}
    (holds : World α → Prop)
    (each : ∀ {world flowPermanent interval}, holds world →
      World.interval world flowPermanent = .ok interval → holds interval.next)
    (starts : holds start) (run : Run start history world) : holds world := by
  induction run with
  | start => exact starts
  | step _ simulated ih => exact each ih simulated

theorem interval_clock {world : World α} {flowPermanent : Bool} {interval : Interval α}
    (simulated : world.interval flowPermanent = .ok interval) :
    interval.world.clock = world.clock ∧ interval.summary.tick = world.clock.now := by
  obtain ⟨course, follows, rfl⟩ := interval_eq_ok.mp simulated
  have clock := follows.revises.clock
  exact ⟨clock, congrArg Clock.now clock⟩

theorem Run.clock {start world : World α} {history : List (Interval α)}
    (run : Run start history world) :
    world.clock = { start.clock with now := start.clock.now + history.length } := by
  induction run with
  | start => rfl
  | step _ simulated ih =>
      simp only [Interval.next, (interval_clock simulated).1, ih, Clock.advance,
        List.length_append, List.length_singleton, Nat.add_assoc]

end World

namespace Sim

/-- The states between the intervals of a run. A run that has been driven to its end may be
driven on; the end itself leaves traces only in the memory and in the flags. -/
inductive Run (start : Sim α σ) : List (Interval α) → Sim α σ → Prop where
  | start : Run start [] start
  | step {history : List (Interval α)} {sim sim' : Sim α σ} {observer : Observer α σ}
      {interval : Interval α} {stop : Bool}
      (before : Run start history sim)
      (simulated : sim.world.interval sim.flowPermanent = .ok interval)
      (stepped : sim.step observer = .ok (stop, sim')) :
      Run start (history ++ [interval]) sim'
  | ended {history : List (Interval α)} {sim : Sim α σ} {bus : Bus σ}
      {terminatedEarly cancelled : Bool}
      (before : Run start history sim) :
      Run start history
        { sim with bus, totals := { sim.totals with terminatedEarly, cancelled } }

/-- What an interval makes of the state of a run. -/
structure Takes (sim : Sim α σ) (interval : Interval α) (sim' : Sim α σ) : Prop where
  config : sim'.config = sim.config
  world : sim'.world = interval.next
  totals : sim'.totals = sim.totals.add interval.summary
  log : sim'.log = sim.log.map (·.append interval.events)

/-- A state that those who watch have changed at most in what they hold themselves. -/
structure Keeps (sim' sim : Sim α σ) : Prop where
  config : sim'.config = sim.config
  world : sim'.world = sim.world
  totals : sim'.totals = sim.totals
  log : sim'.log = sim.log

theorem closeInterval_keeps (sim : Sim α σ) (observer : Observer α σ) (tick : Tick) :
    (sim.closeInterval observer tick).Keeps sim := by
  unfold closeInterval
  cases sim.tracker <;> exact ⟨rfl, rfl, rfl, rfl⟩

theorem report_keeps (sim : Sim α σ) (observer : Observer α σ) (summary : IntervalSummary) :
    (sim.report observer summary).Keeps sim := by
  unfold report
  dsimp only
  split <;> exact ⟨rfl, rfl, rfl, rfl⟩

theorem shouldStop_keeps (sim : Sim α σ) (summary : IntervalSummary) :
    (sim.shouldStop summary).2.Keeps sim := by
  unfold shouldStop
  cases sim.stopRule <;> exact ⟨rfl, rfl, rfl, rfl⟩

theorem step_eq_ok {sim sim' : Sim α σ} {observer : Observer α σ} {stop : Bool}
    (stepped : sim.step observer = .ok (stop, sim')) :
    ∃ interval, sim.world.interval sim.flowPermanent = .ok interval ∧
      sim.Takes interval sim' := by
  simp only [step, Attempt.bind_eq_ok, Attempt.mapError_eq_ok, Attempt.pure_eq_ok,
    Prod.mk.injEq] at stepped
  obtain ⟨interval, simulated, -, rfl⟩ := stepped
  refine ⟨interval, simulated, ?_⟩
  generalize told : ({ sim.note (observer.startTick sim.now) with
    world := interval.world }).dispatch observer interval.events = dispatched
  have closed := closeInterval_keeps dispatched observer interval.summary.tick
  generalize dispatched.closeInterval observer interval.summary.tick = sim₁ at *
  have reported := report_keeps { sim₁ with totals := sim₁.totals.add interval.summary }
    observer interval.summary
  generalize ({ sim₁ with totals := sim₁.totals.add interval.summary } : Sim α σ).report
    observer interval.summary = sim₂ at *
  have asked := shouldStop_keeps sim₂ interval.summary
  subst told
  constructor
  · exact asked.config.trans (reported.config.trans closed.config)
  · rw [asked.world, reported.world, closed.world]
    rfl
  · rw [asked.totals, reported.totals, closed.totals]
    rfl
  · rw [asked.log, reported.log, closed.log]
    rfl

theorem step_isOk {sim : Sim α σ} {interval : Interval α}
    (simulated : sim.world.interval sim.flowPermanent = .ok interval)
    (observer : Observer α σ) :
    ∃ stop sim', sim.step observer = .ok (stop, sim') := by
  have noted : (sim.note (observer.startTick sim.now)).world.interval
      (sim.note (observer.startTick sim.now)).flowPermanent = .ok interval := simulated
  simp only [step, noted]
  exact ⟨_, _, rfl⟩

/-- A run stops in an interval with what the traffic has come to in it, and nobody who watches
has heard of more than that it began. -/
theorem step_eq_error {sim : Sim α σ} {observer : Observer α σ}
    {stopped : Interrupted (RunError α) (Sim α σ)} :
    sim.step observer = .error stopped ↔
      ∃ halted, sim.world.interval sim.flowPermanent = .error halted ∧
        halted.within id (fun world =>
          { sim.note (observer.startTick sim.now) with world }) = stopped := by
  simp only [step, Attempt.bind_eq_error, Attempt.mapError_eq_error]
  constructor
  · rintro (failed | ⟨interval, -, done⟩)
    · exact failed
    · exact absurd done Attempt.pure_ne_error
  · exact .inl

namespace Run

variable {start sim sim' : Sim α σ} {history : List (Interval α)} {observer : Observer α σ}

theorem next {stop : Bool} (run : Run start history sim)
    (stepped : sim.step observer = .ok (stop, sim')) :
    ∃ interval, Run start (history ++ [interval]) sim' := by
  obtain ⟨interval, simulated, -⟩ := step_eq_ok stepped
  exact ⟨interval, .step run simulated stepped⟩

theorem runTicks {count : Nat} (run : Run start history sim)
    (ran : sim.runTicks observer count = .ok sim') :
    ∃ later, later.length = count ∧ Run start (history ++ later) sim' := by
  induction count generalizing history sim with
  | zero =>
      cases ran
      exact ⟨[], rfl, by simpa using run⟩
  | succ count ih =>
      simp only [Sim.runTicks, Attempt.bind_eq_ok, Prod.exists] at ran
      obtain ⟨stop, middle, stepped, ran⟩ := ran
      obtain ⟨interval, reached⟩ := run.next stepped
      obtain ⟨later, length, last⟩ := ih reached ran
      exact ⟨interval :: later, by simp [length], by simpa using last⟩

theorem runUntil {count : Nat} (run : Run start history sim)
    (ran : sim.runUntil observer count = .ok sim') :
    ∃ later, Run start (history ++ later) sim' := by
  induction count generalizing history sim with
  | zero =>
      cases ran
      exact ⟨[], by simpa using run⟩
  | succ count ih =>
      unfold Sim.runUntil at ran
      split at ran
      · cases ran
        exact ⟨[], by simpa using run.ended⟩
      · simp only [Attempt.bind_eq_ok, Prod.exists] at ran
        obtain ⟨stop, middle, stepped, ran⟩ := ran
        obtain ⟨interval, reached⟩ := run.next stepped
        split at ran
        · cases Attempt.pure_eq_ok.mp ran
          exact ⟨[interval], reached.ended⟩
        · obtain ⟨later, last⟩ := ih reached ran
          exact ⟨interval :: later, by simpa using last⟩

theorem run {summary : RunSummary} (before : Run start history sim)
    (ran : sim.run observer = .ok (summary, sim')) :
    ∃ later, Run start (history ++ later) sim' := by
  simp only [Sim.run, Attempt.bind_eq_ok, Attempt.pure_eq_ok, Prod.mk.injEq] at ran
  obtain ⟨middle, driven, -, rfl⟩ := ran
  obtain ⟨later, reached⟩ := before.runUntil driven
  exact ⟨later, reached.ended⟩

theorem world (run : Run start history sim) : World.Run start.world history sim.world := by
  induction run with
  | start => exact .start
  | step _ simulated stepped ih =>
      obtain ⟨interval, again, takes⟩ := step_eq_ok stepped
      rw [simulated] at again
      cases again
      rw [takes.world]
      exact .step ih simulated
  | ended _ ih => exact ih

theorem totals (run : Run start history sim) :
    sim.totals.departed =
      start.totals.departed + (history.map (·.summary.departed)).sum ∧
    sim.totals.arrived = start.totals.arrived + (history.map (·.summary.arrived)).sum ∧
    sim.totals.stuck = start.totals.stuck + (history.map (·.summary.stuck)).sum := by
  induction run with
  | start => exact ⟨rfl, rfl, rfl⟩
  | step _ simulated stepped ih =>
      obtain ⟨interval, again, takes⟩ := step_eq_ok stepped
      rw [simulated] at again
      cases again
      simp only [takes.totals, RunSummary.add, ih, List.map_append, List.sum_append,
        List.map_singleton, List.sum_singleton, Nat.add_assoc, and_self]
  | ended _ ih => exact ih

theorem log (run : Run start history sim) :
    sim.log = start.log.map (·.append (heard history).toArray) := by
  induction run with
  | start => cases start.log <;> simp [heard, EventLog.append]
  | step _ simulated stepped ih =>
      obtain ⟨interval, again, takes⟩ := step_eq_ok stepped
      rw [simulated] at again
      cases again
      rw [takes.log, ih, heard_append, heard_singleton]
      cases start.log with
      | none => rfl
      | some log =>
          simp only [Option.map_some, EventLog.append, Array.append_assoc,
            Array.toArray_append]
  | ended _ ih => exact ih

end Run

end Sim

/-- What a set-up run starts from. -/
structure SimSetup.Starts (setup : SimSetup α σ) (sim : Sim α σ) : Prop where
  config : setup.config.check (α := α) = .ok ()
  changes : ∀ change ∈ setup.changes, change.check setup.network = .ok ()
  world : ∃ roads, Roads.ofNetwork setup.network setup.dynamics setup.table
      setup.config.tickSecs = .ok roads ∧
    sim.world = {
      clock := setup.config.clock
      network := setup.network
      table := setup.table
      population := setup.population
      roads
      departures := .ofPopulation setup.population setup.config.clock
      changes := SimSetup.sortChanges setup.changes }
  totals : sim.totals = {}
  log : sim.log = if setup.keepEvents then some {} else none

theorem SimSetup.build_eq_ok {setup : SimSetup α σ} {sim : Sim α σ}
    (built : setup.build = .ok sim) : setup.Starts sim := by
  simp only [build, Attempt.bind_eq_ok, Attempt.mapError_eq_ok, Attempt.pure_eq_ok] at built
  obtain ⟨_, checked, _, changes, roads, made, tracker, -, rfl⟩ := built
  exact ⟨checked, Attempt.forM_eq_ok.mp changes, ⟨roads, made, rfl⟩, rfl, rfl⟩

theorem SimSetup.Starts.opened {setup : SimSetup α σ} {sim : Sim α σ}
    (starts : setup.Starts sim) :
    Roads.ofNetwork setup.network setup.dynamics setup.table setup.config.tickSecs =
      .ok sim.world.roads := by
  obtain ⟨roads, made, world⟩ := starts.world
  rw [world]
  exact made

theorem Sim.Run.log_eq_heard {setup : SimSetup α σ} {start sim : Sim α σ}
    {history : List (Interval α)} {log : EventLog} (starts : setup.Starts start)
    (run : Sim.Run start history sim) (kept : sim.log = some log) :
    log.events.toList = heard history := by
  have whole := run.log
  rw [kept, starts.log] at whole
  split at whole
  · cases whole
    simp [EventLog.append]
  · cases whole

namespace Bottleneck

/-! A small setup to try statements on: a roomy link from the entry to the middle of a road
and a short one from there to the exit, and two modes, the wider of which may seep. -/

def link (name : String) (start finish : Nat) (storage : Rat) : Link Rat where
  name := name
  start := ⟨start⟩
  finish := ⟨finish⟩
  length := 10
  freeSpeed := 10
  lanes := 1
  flowCapacity := 36000
  storage := some storage
  allowsPassing := true

def draft : NetworkDraft Rat where
  nodes := #[⟨"exit"⟩, ⟨"middle"⟩, ⟨"entry"⟩]
  links := #[link "out" 1 0 3, link "in" 2 1 10]

def exit : LinkId := ⟨0⟩

def entry : LinkId := ⟨1⟩

def wide : ModeId := ⟨0⟩

def narrow : ModeId := ⟨1⟩

def table : ModeTable Rat where
  types := #[⟨"wide", 2, 10⟩, ⟨"narrow", 1, 10⟩]
  checked := by rfl

/-- Trips, each given by its mode, its departure and its route. -/
def crowd (trips : List (ModeId × Nat × List LinkId)) : PopulationDraft :=
  trips.foldl (fun draft (mode, departs, route) => draft.add mode departs (.fixed route))
    { seed := 0 }

theorem crowd_drafted (trips : List (ModeId × Nat × List LinkId)) : (crowd trips).Drafted := by
  have added (trips : List (ModeId × Nat × List LinkId)) (draft : PopulationDraft)
      (drafted : draft.Drafted) :
      (trips.foldl (fun draft (mode, departs, route) =>
        draft.add mode departs (.fixed route)) draft).Drafted := by
    induction trips generalizing draft with
    | nil => exact drafted
    | cons trip rest ih => exact ih _ (drafted.add ..)
  exact added trips { seed := 0 } .empty

theorem exists_trip_of_build {trips : List (ModeId × Nat × List LinkId)}
    {population : Population} (populated : (crowd trips).build table = .ok population)
    {agent : Agent} (member : agent ∈ population.agents) :
    ∃ trip ∈ trips, agent.driver = .fixed trip.2.2 := by
  have added (trips : List (ModeId × Nat × List LinkId)) (draft : PopulationDraft)
      (listed : agent ∈ (trips.foldl (fun draft (mode, departs, route) =>
        draft.add mode departs (.fixed route)) draft).agents) :
      agent ∈ draft.agents ∨ ∃ trip ∈ trips, agent.driver = .fixed trip.2.2 := by
    induction trips generalizing draft with
    | nil => exact .inl listed
    | cons trip rest ih =>
        obtain before | ⟨other, among, own⟩ := ih _ listed
        · obtain old | rfl := Array.mem_push.mp before
          · exact .inl old
          · exact .inr ⟨trip, List.mem_cons_self, rfl⟩
        · exact .inr ⟨other, List.mem_cons_of_mem _ among, own⟩
  obtain ⟨-, rfl⟩ := PopulationDraft.build_eq_ok.mp populated
  exact (added trips { seed := 0 } member).resolve_left (Array.not_mem_empty agent)

def setup (network : Network Rat) (population : Population) : SimSetup Rat Unit where
  config := { endSecs := 10 }
  network := network
  table := table
  population := population
  dynamics := { seepage := some { modes := ["wide"], fraction := 1 } }
  bus := { memory := () }

section Drive

variable {σ β : Type} {draft : NetworkDraft Rat} {trips : List (ModeId × Nat × List LinkId)}
  {setup : Network Rat → Population → SimSetup Rat σ} {count : Nat}
  {seen : Network Rat → Population → Sim Rat σ → Sim Rat σ → Option β} {answer : β}

/-- What is seen of a crowd that has driven over a network for some intervals. -/
def drive? (draft : NetworkDraft Rat) (trips : List (ModeId × Nat × List LinkId))
    (setup : Network Rat → Population → SimSetup Rat σ) (count : Nat)
    (seen : Network Rat → Population → Sim Rat σ → Sim Rat σ → Option β) : Option β :=
  draft.build.toOption.bind fun network =>
  ((crowd trips).build table).toOption.bind fun population =>
  (setup network population).build.toOption.bind fun start =>
  (start.runTicks {} count).toOption.bind (seen network population start)

theorem exists_of_drive? (driven : drive? draft trips setup count seen = some answer) :
    ∃ network population start sim history, draft.build = .ok network ∧
      (crowd trips).build table = .ok population ∧
      (setup network population).build = .ok start ∧ start.runTicks {} count = .ok sim ∧
      Sim.Run start history sim ∧ seen network population start sim = some answer := by
  simp only [drive?, Option.bind_eq_some_iff, Attempt.toOption_eq_some] at driven
  obtain ⟨network, connected, population, populated, start, built, sim, ticked, seen⟩ := driven
  obtain ⟨history, -, run⟩ := Sim.Run.start.runTicks ticked
  exact ⟨network, population, start, sim, history, connected, populated, built, ticked, run, seen⟩

end Drive

end Bottleneck

end MixedTraffic

import MixedTraffic.Proofs.Run.History

namespace MixedTraffic

/-! What those who watch a run are told. The tracker takes in every event of an interval and
then the end of it. A part of the shared memory that only listeners of the bus write to has
been through every event of the run. -/

variable {α σ τ : Type} [Quantity α]

/-- That an observer leaves a part of the memory alone. -/
structure Observer.Spares (observer : Observer α σ) (read : σ → τ) : Prop where
  startTick : ∀ tick memory, read (observer.startTick tick memory) = read memory
  hear : ∀ event memory, read (observer.hear event memory) = read memory
  closeBin : ∀ bin memory, read (observer.closeBin bin memory) = read memory
  endInterval : ∀ summary roads memory,
    read (observer.endInterval summary roads memory) = read memory
  snapshot : ∀ tick roads population memory,
    read (observer.snapshot tick roads population memory) = read memory

theorem Observer.spares_silent (read : σ → τ) : ({} : Observer α σ).Spares read :=
  ⟨fun _ _ => rfl, fun _ _ => rfl, fun _ _ => rfl, fun _ _ _ => rfl, fun _ _ _ _ => rfl⟩

/-- That a listener brings each event to a part of the memory. -/
structure Listener.Brings (listener : Listener σ) (read : σ → τ) (hear : Event → τ → τ) :
    Prop where
  hear : ∀ event memory, read (listener.hear event memory) = hear event (read memory)
  endInterval : ∀ tick memory, read (listener.endInterval tick memory) = read memory

/-- That one listener of a bus brings each event to a part of the memory, which all others leave
alone. -/
def Bus.Feeds (bus : Bus σ) (read : σ → τ) (hear : Event → τ → τ) : Prop :=
  ∃ before listener after, bus.listeners = before ++ listener :: after ∧
    (∀ other ∈ before ++ after, other.Brings read fun _ part => part) ∧
    listener.Brings read hear

theorem foldl_spares {ι : Type} {read : σ → τ} {work : σ → ι → σ} {items : List ι}
    (spares : ∀ item ∈ items, ∀ memory, read (work memory item) = read memory) (memory : σ) :
    read (items.foldl work memory) = read memory := by
  induction items generalizing memory with
  | nil => rfl
  | cons item rest ih =>
      obtain ⟨first, others⟩ := List.forall_mem_cons.mp spares
      exact (ih others _).trans (first memory)

namespace Bus.Feeds

variable {bus : Bus σ} {read : σ → τ} {hear : Event → τ → τ}

theorem hears (feeds : bus.Feeds read hear) (event : Event) (memory : σ) :
    read (bus.listeners.foldl (fun memory listener => listener.hear event memory) memory) =
      hear event (read memory) := by
  obtain ⟨before, listener, after, listeners, others, brings⟩ := feeds
  rw [listeners, List.foldl_append, List.foldl_cons,
    foldl_spares fun other member => (others other (List.mem_append_right _ member)).hear event,
    brings.hear,
    foldl_spares fun other member => (others other (List.mem_append_left _ member)).hear event]

theorem ends (feeds : bus.Feeds read hear) (tick : Tick) (memory : σ) :
    read (bus.listeners.foldl (fun memory listener => listener.endInterval tick memory) memory) =
      read memory := by
  obtain ⟨before, listener, after, listeners, others, brings⟩ := feeds
  refine foldl_spares (fun item member memory => ?_) memory
  rw [listeners] at member
  obtain rfl | member := List.mem_cons.mp (List.perm_middle.mem_iff.mp member)
  · exact brings.endInterval tick memory
  · exact (others item member).endInterval tick memory

end Bus.Feeds

namespace Sim

/-- That all events of a run come once to a part of the memory, and nothing else does. -/
structure Feeds (sim : Sim α σ) (read : σ → τ) (hear : Event → τ → τ) : Prop where
  bus : sim.bus.Feeds read hear
  stopRule : ∀ rule, sim.stopRule = some rule → ∀ context memory,
    read (rule context memory).2 = read memory

/-- A run that nobody who watches it interferes with, as far as a part of the memory goes. -/
inductive Attended (read : σ → τ) (start : Sim α σ) : List (Interval α) → Sim α σ → Prop where
  | start : Attended read start [] start
  | step {history : List (Interval α)} {sim sim' : Sim α σ} {observer : Observer α σ}
      {interval : Interval α} {stop : Bool}
      (before : Attended read start history sim) (spares : observer.Spares read)
      (simulated : sim.world.interval sim.flowPermanent = .ok interval)
      (stepped : sim.step observer = .ok (stop, sim')) :
      Attended read start (history ++ [interval]) sim'
  | ended {history : List (Interval α)} {sim : Sim α σ} {bus : Bus σ}
      {terminatedEarly cancelled : Bool}
      (before : Attended read start history sim) (listeners : bus.listeners = sim.bus.listeners)
      (memory : read bus.memory = read sim.bus.memory) :
      Attended read start history
        { sim with bus, totals := { sim.totals with terminatedEarly, cancelled } }

theorem closeInterval_tracker (sim : Sim α σ) (observer : Observer α σ) (tick : Tick) :
    (sim.closeInterval observer tick).tracker =
      sim.tracker.map fun tracker => (tracker.closeInterval tick).2 := by
  unfold closeInterval
  cases sim.tracker <;> rfl

theorem report_tracker (sim : Sim α σ) (observer : Observer α σ) (summary : IntervalSummary) :
    (sim.report observer summary).tracker = sim.tracker := by
  unfold report
  dsimp only
  split <;> rfl

theorem shouldStop_tracker (sim : Sim α σ) (summary : IntervalSummary) :
    (sim.shouldStop summary).2.tracker = sim.tracker := by
  unfold shouldStop
  cases sim.stopRule <;> rfl

/-- The tracker of a run takes in the events of an interval, then the end of it. -/
theorem step_tracker {sim sim' : Sim α σ} {observer : Observer α σ} {interval : Interval α}
    {stop : Bool} (simulated : sim.world.interval sim.flowPermanent = .ok interval)
    (stepped : sim.step observer = .ok (stop, sim')) :
    sim'.tracker = sim.tracker.map fun tracker =>
      ((interval.events.foldl FlowTracker.record tracker).closeInterval
        interval.summary.tick).2 := by
  simp only [step, Attempt.bind_eq_ok, Attempt.mapError_eq_ok, Attempt.pure_eq_ok,
    Prod.mk.injEq] at stepped
  obtain ⟨again, simulated', -, rfl⟩ := stepped
  cases simulated.symm.trans simulated'
  rw [shouldStop_tracker, report_tracker]
  refine (closeInterval_tracker ..).trans ?_
  rw [dispatch, Option.map_map]
  rfl

/-- A state of a run with the same listeners and stop rule as another, and a given part of the
shared memory. -/
structure Holds (sim' sim : Sim α σ) (read : σ → τ) (part : τ) : Prop where
  listeners : sim'.bus.listeners = sim.bus.listeners
  stopRule : sim'.stopRule = sim.stopRule
  memory : read sim'.bus.memory = part

namespace Holds

variable {sim sim' : Sim α σ} {read : σ → τ} {hear : Event → τ → τ} {part : τ}
  {observer : Observer α σ}

theorem of_bus (holds : sim'.Holds sim read part) {sim'' : Sim α σ}
    (bus : sim''.bus = sim'.bus) (stopRule : sim''.stopRule = sim'.stopRule) :
    sim''.Holds sim read part := by
  refine ⟨?_, stopRule.trans holds.stopRule, ?_⟩
  · rw [bus, holds.listeners]
  · rw [bus, holds.memory]

theorem note (holds : sim'.Holds sim read part) (write : σ → σ)
    (spares : ∀ memory, read (write memory) = read memory) :
    (sim'.note write).Holds sim read part :=
  ⟨holds.listeners, holds.stopRule, (spares _).trans holds.memory⟩

theorem dispatch (holds : sim'.Holds sim read part) (feeds : sim.bus.Feeds read hear)
    (spares : observer.Spares read) (events : Array Event) :
    (sim'.dispatch observer events).Holds sim read
      (events.toList.foldl (fun part event => hear event part) part) := by
  have told (events : List Event) (bus : Bus σ) (part : τ)
      (listeners : bus.listeners = sim.bus.listeners) (memory : read bus.memory = part) :
      (events.foldl (fun bus event => (bus.emit event).note (observer.hear event))
          bus).listeners = sim.bus.listeners ∧
        read (events.foldl (fun bus event => (bus.emit event).note (observer.hear event))
          bus).memory = events.foldl (fun part event => hear event part) part := by
    induction events generalizing bus part with
    | nil => exact ⟨listeners, memory⟩
    | cons event events ih =>
        refine ih _ _ listeners ?_
        change read (observer.hear event (bus.emit event).memory) = hear event part
        rw [spares.hear, ← memory, Bus.emit, listeners, feeds.hears]
  unfold Sim.dispatch
  rw [← Array.foldl_toList]
  obtain ⟨listeners, memory⟩ := told events.toList _ _ holds.listeners holds.memory
  exact ⟨listeners, holds.stopRule, memory⟩

theorem closeInterval (holds : sim'.Holds sim read part) (feeds : sim.bus.Feeds read hear)
    (spares : observer.Spares read) (tick : Tick) :
    (sim'.closeInterval observer tick).Holds sim read part := by
  have ended : read (sim'.bus.endInterval tick).memory = part := by
    rw [Bus.endInterval, holds.listeners, feeds.ends, holds.memory]
  unfold Sim.closeInterval
  cases sim'.tracker with
  | none => exact ⟨holds.listeners, holds.stopRule, ended⟩
  | some tracker =>
      dsimp only
      cases (tracker.closeInterval tick).1 with
      | none => exact ⟨holds.listeners, holds.stopRule, ended⟩
      | some bin =>
          exact ⟨holds.listeners, holds.stopRule, (spares.closeBin ..).trans ended⟩

theorem report (holds : sim'.Holds sim read part) (spares : observer.Spares read)
    (summary : IntervalSummary) : (sim'.report observer summary).Holds sim read part := by
  have noted := holds.note (observer.endInterval summary sim'.world.roads)
    (spares.endInterval summary _)
  unfold Sim.report
  dsimp only
  split
  · exact noted.note _ fun _ => spares.snapshot ..
  · exact noted

theorem shouldStop (holds : sim'.Holds sim read part) (feeds : sim.Feeds read hear)
    (summary : IntervalSummary) : (sim'.shouldStop summary).2.Holds sim read part := by
  unfold Sim.shouldStop
  cases rule : sim'.stopRule with
  | none => exact holds
  | some rule' =>
      refine ⟨holds.listeners, holds.stopRule, ?_⟩
      exact (feeds.stopRule rule' (holds.stopRule ▸ rule) _ _).trans holds.memory

theorem step {interval : Interval α} {stop : Bool} (holds : sim'.Holds sim read part)
    (feeds : sim.Feeds read hear) (spares : observer.Spares read) {sim'' : Sim α σ}
    (simulated : sim'.world.interval sim'.flowPermanent = .ok interval)
    (stepped : sim'.step observer = .ok (stop, sim'')) :
    sim''.Holds sim read
      (interval.events.toList.foldl (fun part event => hear event part) part) := by
  simp only [Sim.step, Attempt.bind_eq_ok, Attempt.mapError_eq_ok, Attempt.pure_eq_ok,
    Prod.mk.injEq] at stepped
  obtain ⟨again, simulated', -, rfl⟩ := stepped
  cases simulated.symm.trans simulated'
  have noted := holds.note (observer.startTick sim'.now) (spares.startTick _)
  have placed : ({ sim'.note (observer.startTick sim'.now) with
      world := interval.world } : Sim α σ).Holds sim read part := noted.of_bus rfl rfl
  have closed := (placed.dispatch feeds.bus spares interval.events).closeInterval feeds.bus spares
    interval.summary.tick
  generalize Sim.closeInterval _ observer interval.summary.tick = told at closed ⊢
  have counted : ({ told with totals := told.totals.add interval.summary } : Sim α σ).Holds sim
      read _ := closed.of_bus rfl rfl
  exact ((counted.report spares _).shouldStop feeds _).of_bus rfl rfl

end Holds

namespace Attended

variable {start sim : Sim α σ} {read : σ → τ} {hear : Event → τ → τ} {history : List (Interval α)}

theorem run (attended : Attended read start history sim) : Run start history sim := by
  induction attended with
  | start => exact .start
  | step _ _ simulated stepped ih => exact .step ih simulated stepped
  | ended _ _ _ ih => exact .ended ih

theorem runTicks {observer : Observer α σ} {count : Nat} {sim' : Sim α σ}
    (attended : Attended read start history sim) (spares : observer.Spares read)
    (ran : sim.runTicks observer count = .ok sim') :
    ∃ later, later.length = count ∧ Attended read start (history ++ later) sim' := by
  induction count generalizing history sim with
  | zero =>
      cases ran
      exact ⟨[], rfl, by simpa using attended⟩
  | succ count ih =>
      simp only [Sim.runTicks, Attempt.bind_eq_ok, Prod.exists] at ran
      obtain ⟨stop, middle, stepped, ran⟩ := ran
      obtain ⟨interval, simulated, -⟩ := step_eq_ok stepped
      obtain ⟨later, length, last⟩ := ih (.step attended spares simulated stepped) ran
      exact ⟨interval :: later, by simp [length], by simpa using last⟩

theorem holds (attended : Attended read start history sim) (feeds : start.Feeds read hear) :
    sim.Holds start read
      ((heard history).foldl (fun part event => hear event part) (read start.bus.memory)) := by
  induction attended with
  | start => exact ⟨rfl, rfl, rfl⟩
  | step _ spares simulated stepped ih =>
      rw [heard_append, heard_singleton, List.foldl_append]
      exact ih.step feeds spares simulated stepped
  | ended _ listeners memory ih =>
      exact ⟨listeners.trans ih.listeners, ih.stopRule, memory.trans ih.memory⟩

end Attended

end Sim

end MixedTraffic

import MixedTraffic.Proofs.Run.Arrivals
import MixedTraffic.Proofs.Run.Tracking

namespace MixedTraffic

/-! The instruments of a run hear nothing but events, and agree with the roads all the same. -/

variable {α σ : Type} [Quantity α] {setup : SimSetup α σ} {start sim : Sim α σ}
  {history : List (Interval α)} {read : σ → OvertakeCounter α} {count : Nat}
  {measured : Option α}

/-- That a counter of overtakes is among the listeners of a run, in a part of the memory to which
nothing else writes. -/
structure SimSetup.HasCounter (setup : SimSetup α σ) (read : σ → OvertakeCounter α) (count : Nat)
    (measured : Option α) : Prop where
  feeds : setup.bus.Feeds read OvertakeCounter.hear
  stopRule : ∀ rule, setup.stopRule = some rule → ∀ context memory,
    read (rule context memory).2 = read memory
  new : read setup.bus.memory = .new setup.network count setup.population.modes measured
  listed : ∀ mode ∈ setup.population.modes, mode.index < count

theorem SimSetup.watched_of_build (built : setup.build = .ok start) :
    start.bus = setup.bus ∧ start.stopRule = setup.stopRule := by
  simp only [build, Attempt.bind_eq_ok, Attempt.mapError_eq_ok, Attempt.pure_eq_ok] at built
  obtain ⟨_, -, _, -, roads, -, tracker?, -, rfl⟩ := built
  exact ⟨rfl, rfl⟩

namespace Sim.Attended

variable (built : setup.build = .ok start) (fresh : setup.population.Fresh)
  (counted : setup.HasCounter read count measured)
include built counted

theorem memory_eq (attended : Attended read start history sim) :
    read sim.bus.memory = (heard history).foldl (fun counter event => counter.hear event)
      (.new setup.network count setup.population.modes measured) := by
  obtain ⟨bus, stopRule⟩ := SimSetup.watched_of_build built
  have feeds : start.Feeds read OvertakeCounter.hear :=
    ⟨bus ▸ counted.feeds, stopRule ▸ counted.stopRule⟩
  rw [(attended.holds feeds).memory, bus, counted.new]

include fresh

theorem mirrors (attended : Attended read start history sim) :
    (read sim.bus.memory).Mirrors
      { roads := sim.world.roads, population := sim.world.population } sim.world.clock.now
      (heard history) := by
  obtain ⟨passages, passes, rfl⟩ := World.Passes.of_run attended.run.world
  rw [attended.memory_eq built counted]
  exact OvertakeCounter.Mirrors.run passes (.of_build built fresh) (.of_build built counted.listed)

/-- The line of a counter on a link is that of the vehicles there, in their order of arrival. -/
theorem exists_line (sound : setup.network.Sound) (attended : Attended read start history sim)
    {link : LinkId} {queue : LinkQueue α} (present : sim.world.roads.queue? link = some queue) :
    ∃ line arrivals, (read sim.bus.memory).onLink[link.index]? = some line ∧
      queue.Arrivals sim.now arrivals ∧
      line = arrivals.map (fun vehicle => (vehicle.agent, vehicle.mode)) ∧
      Ranked (line.map (·.1)) (entries link (heard history)) := by
  have mirrors := attended.mirrors built fresh counted
  have placed := (World.Placed.of_build built fresh).run attended.run.world
  obtain ⟨line, arrivals, here, order, same, ranked⟩ := mirrors.lined link queue present
  refine ⟨line, arrivals, here, order, ?_, ranked⟩
  let modeOf (id : AgentId) : ModeId := (setup.population.modes[id.index]?).getD ⟨0⟩
  have modeOf_eq {id : AgentId} {mode : ModeId}
      (own : setup.population.modes[id.index]? = some mode) : modeOf id = mode := by
    simp only [modeOf, own, Option.getD_some]
  have lined : (line.map (·.1)).map (fun id => (id, modeOf id)) = line := by
    rw [List.map_map]
    refine (List.map_congr_left fun entry listed => ?_).trans (List.map_id line)
    have own := mirrors.ready.lined line (Array.mem_of_getElem? here) entry listed
    rw [mirrors.modes, attended.run.modes_eq built] at own
    exact Prod.ext rfl (modeOf_eq own)
  have manned : (arrivals.map (·.agent)).map (fun id => (id, modeOf id)) =
      arrivals.map fun vehicle => (vehicle.agent, vehicle.mode) := by
    rw [List.map_map]
    refine List.map_congr_left fun vehicle listed => Prod.ext rfl ?_
    have member := (Roads.mem_fleet placed.traffic.labelled).mpr
      ⟨queue, present, order.perm.mem_iff.mp listed⟩
    exact modeOf_eq (attended.run.manned built fresh sound member)
  rw [← lined, same, manned]

end Sim.Attended

/-- The tracker of a run knows the agents that are moving, since when each is on its link, and how
many vehicles there are of each mode. No count is ever taken below zero, and each bin tells of the
vehicles that are on the roads when it is closed. A counter of overtakes has the vehicles of each
link in the order in which they have come. -/
theorem Sim.Run.instruments_agree {roads : NetworkDraft α} {draft : PopulationDraft}
    {table : ModeTable α} (connected : roads.build = .ok setup.network) (drafted : draft.Drafted)
    (populated : draft.build table = .ok setup.population) (built : setup.build = .ok start) :
    (∀ config sim history, setup.tracker = some config → Sim.Run start history sim →
      ∃ tracker, sim.tracker = some tracker ∧ tracker.Shows sim.world ∧
        ∀ interval, sim.world.interval sim.flowPermanent = .ok interval →
          (∀ observer stop sim', sim.step observer = .ok (stop, sim') →
            sim'.tracker = some (tracker.through interval).2) ∧
          (∀ done event rest, interval.events.toList = done ++ event :: rest →
            ¬(done.foldl FlowTracker.record tracker).Saturates event) ∧
          ∀ bin, (tracker.through interval).1 = some bin →
            bin.total.agents = interval.summary.onNetwork ∧
              (bin.modes.map (·.2.agents)).sum = interval.summary.onNetwork) ∧
    ∀ (read : σ → OvertakeCounter α) count measured, setup.HasCounter read count measured →
      ∀ sim history, Sim.Attended read start history sim →
        ∀ link queue, sim.world.roads.queue? link = some queue →
          ∃ line, (read sim.bus.memory).onLink[link.index]? = some line ∧
            line.Perm (queue.vehicles.map fun vehicle => (vehicle.agent, vehicle.mode)) ∧
            Ranked (line.map (·.1)) (entries link (heard history)) := by
  have fresh := drafted.fresh_of_build populated
  have sound := Network.sound_of_build connected
  constructor
  · intro config sim history given run
    obtain ⟨tracker, tracked⟩ := run.exists_tracker built given
    refine ⟨tracker, tracked, run.shows built fresh sound (run.follows built fresh tracked),
      fun interval simulated => ⟨fun observer stop sim' stepped => ?_, ?_, ?_⟩⟩
    · rw [Sim.step_tracker simulated stepped, tracked]
      rfl
    · intro done event rest parts
      exact run.not_saturates built fresh tracked simulated parts
    · intro bin closed
      exact run.agents_of_bin built fresh sound tracked simulated closed
  · intro read count measured counted sim history attended link queue present
    obtain ⟨line, arrivals, here, order, lined, ranked⟩ :=
      attended.exists_line built fresh counted sound present
    exact ⟨line, here, lined ▸ order.perm.map _, ranked⟩

namespace Bottleneck

/-- A run with both instruments, whose memory is the counter. -/
def watched (network : Network Rat) (population : Population) :
    SimSetup Rat (OvertakeCounter Rat) where
  config := { endSecs := 10 }
  network := network
  table := table
  population := population
  dynamics := { seepage := some { modes := ["wide"], fraction := 1 } }
  tracker := some { binTicks := 1 }
  bus := {
    listeners := [{ hear := OvertakeCounter.hear }]
    memory := .new network 2 population.modes none }

theorem watched_hasCounter {network : Network Rat} {population : Population}
    (listed : ∀ mode ∈ population.modes, mode.index < 2) :
    (watched network population).HasCounter id 2 none where
  feeds := ⟨[], _, [], rfl, List.forall_mem_nil _, fun _ _ => rfl, fun _ _ => rfl⟩
  stopRule _ given := nomatch given
  new := rfl
  listed := listed

end Bottleneck

/-- A wide vehicle has seeped past a narrow one that still stands on the first link. -/
theorem Bottleneck.instruments_agree_of_four :
    ∃ network population start sim history tracker queue, draft.build = .ok network ∧
      (crowd [(wide, 0, [entry, exit]), (narrow, 0, [entry, exit]), (narrow, 0, [entry, exit]),
        (wide, 0, [entry, exit])]).build table = .ok population ∧
      (watched network population).build = .ok start ∧ Sim.Run start history sim ∧
      sim.tracker = some tracker ∧ tracker.entries = #[some 1, some 1, some 0, some 1] ∧
      tracker.Shows sim.world ∧ sim.world.roads.queue? exit = some queue ∧
      sim.bus.memory.onLink[exit.index]? = some [(⟨0⟩, wide), (⟨1⟩, narrow), (⟨3⟩, wide)] ∧
      [(⟨0⟩, wide), (⟨1⟩, narrow), (⟨3⟩, wide)].Perm
        (queue.vehicles.map fun vehicle => (vehicle.agent, vehicle.mode)) ∧
      Ranked [⟨0⟩, ⟨1⟩, ⟨3⟩] (entries exit (heard history)) := by
  have ran : drive? draft [(wide, 0, [entry, exit]), (narrow, 0, [entry, exit]),
      (narrow, 0, [entry, exit]), (wide, 0, [entry, exit])] watched 2 (fun _ population _ sim =>
        sim.tracker.bind fun (tracker : FlowTracker Rat) =>
        (sim.world.roads.queue? exit).map fun (_ : LinkQueue Rat) =>
          (population.modes, tracker.entries, sim.bus.memory.onLink[exit.index]?)) =
      some (#[wide, narrow, narrow, wide], #[some 1, some 1, some 0, some 1],
        some [(⟨0⟩, wide), (⟨1⟩, narrow), (⟨3⟩, wide)]) := by decide +kernel
  obtain ⟨network, population, start, sim, _, connected, populated, built, ticked, -, seen⟩ :=
    exists_of_drive? ran
  simp only [Option.bind_eq_some_iff, Option.map_eq_some_iff, Prod.mk.injEq] at seen
  obtain ⟨tracker, tracked, queue, present, modes, entries, onLink⟩ := seen
  obtain ⟨history, -, attended⟩ :=
    Sim.Attended.start.runTicks (Observer.spares_silent id) ticked
  have listed : ∀ mode ∈ population.modes, mode.index < 2 := by
    rw [modes]
    decide
  obtain ⟨tracking, counting⟩ :=
    Sim.Run.instruments_agree connected (crowd_drafted _) populated built
  obtain ⟨shown, tracked', shows, -⟩ := tracking { binTicks := 1 } sim history rfl attended.run
  cases tracked.symm.trans tracked'
  obtain ⟨line, here, perm, ranked⟩ :=
    counting id 2 none (watched_hasCounter listed) sim history attended exit queue present
  cases onLink.symm.trans here
  exact ⟨network, population, start, sim, history, tracker, queue, connected, populated, built,
    attended.run, tracked, entries, shows, present, onLink, perm, ranked⟩

end MixedTraffic

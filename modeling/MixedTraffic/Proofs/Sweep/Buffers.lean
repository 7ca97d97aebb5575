import MixedTraffic.Proofs.Run.Rush
import MixedTraffic.Proofs.Sweep.Circuit
import MixedTraffic.Proofs.Sweep.Load

namespace MixedTraffic

/-! When `home` and `work` hold nobody back. -/

section Presets

theorem VehicleType.pcu_le_of_preset? {name : String} {type : VehicleType Rat}
    (given : preset? name = some type) : type.pcu ≤ 3 := by
  unfold preset? at given
  split at given
  all_goals cases given
  all_goals norm_num [ofKmh, Quantity.fraction]

theorem ModeTable.maxPcu_le {table : ModeTable Rat} {bound : Rat} (nonneg : 0 ≤ bound)
    (each : ∀ type ∈ table.types.toList, type.pcu ≤ bound) : table.maxPcu ≤ bound := by
  have largest (types : List (VehicleType Rat)) (start : Rat) (below : start ≤ bound)
      (each : ∀ type ∈ types, type.pcu ≤ bound) :
      types.foldl (fun most type => Quantity.larger most type.pcu) start ≤ bound := by
    induction types generalizing start with
    | nil => exact below
    | cons type rest ih =>
        obtain ⟨first, others⟩ := List.forall_mem_cons.mp each
        exact ih _ ((Quantity.larger_eq_max ..).trans_le (max_le below first)) others
  unfold maxPcu
  rw [← Array.foldl_toList]
  exact largest _ _ nonneg each

theorem ModeTable.maxPcu_le_of_ofPresets {names : List String} {table : ModeTable Rat}
    (made : ofPresets names = .ok table) : table.maxPcu ≤ 3 := by
  obtain ⟨types, known, made⟩ := Attempt.bind_eq_ok.mp made
  unfold ofTypes at made
  split at made
  · cases made
    refine maxPcu_le (by norm_num) fun type listed => ?_
    rw [List.toList_toArray] at listed
    obtain ⟨name, -, given⟩ := Attempt.exists_of_mem_mapM known listed
    exact VehicleType.pcu_le_of_preset? (Attempt.elim_eq_ok.mp given)
  · cases made

end Presets

namespace Generator

theorem nextWord_lt (g : Generator) : g.nextWord.1 < 2 ^ 32 := by
  change (g.next.1 >>> 32).toNat < 2 ^ 32
  have word := g.next.1.toNat_lt
  rw [UInt64.toNat_shiftRight]
  change g.next.1.toNat >>> 32 < 2 ^ 32
  rw [Nat.shiftRight_eq_div_pow]
  omega

theorem draw_lt {width : Nat} (positive : 0 < width) (attempts : Nat) (g : Generator) :
    (draw width attempts g).1 < width := by
  induction attempts generalizing g with
  | zero => exact positive
  | succ attempts ih =>
      rw [draw]
      dsimp only
      split
      · refine Nat.div_lt_of_lt_mul ?_
        exact Nat.mul_lt_mul_of_pos_right g.nextWord_lt positive
      · exact ih _

theorem secsWithin_lt {window : Nat} (positive : 0 < window) (g : Generator) :
    (g.secsWithin window).1 < window := by
  rw [secsWithin, if_neg positive.ne']
  exact draw_lt positive _ g

end Generator

namespace Sweep

variable {α : Type} [Quantity α] {sweep : Sweep α} {draft : PopulationDraft}

/-- That the agents of a draft depart within the window of a sweep. -/
def Timed (sweep : Sweep α) (draft : PopulationDraft) : Prop :=
  ∀ agent ∈ draft.agents, sweep.config.run.startSecs ≤ agent.departureSecs ∧
    agent.departureSecs < sweep.config.run.startSecs + sweep.config.departureWindow

theorem Timed.addAgents (timed : sweep.Timed draft) (positive : 0 < sweep.config.departureWindow)
    (mode : ModeId) (count : Nat) : sweep.Timed (sweep.addAgents mode count draft) := by
  induction count generalizing draft with
  | zero => exact timed
  | succ count ih =>
      refine ih fun agent member => ?_
      obtain old | rfl := Array.mem_push.mp member
      · exact timed agent old
      · exact ⟨Nat.le_add_right _ _, Nat.add_lt_add_left (Generator.secsWithin_lt positive _) _⟩

theorem timed_of_population {agents : List Nat} {population : Population}
    (positive : 0 < sweep.config.departureWindow)
    (made : sweep.population agents = .ok population) :
    ∀ agent ∈ population.agents, sweep.config.run.startSecs ≤ agent.departureSecs ∧
      agent.departureSecs < sweep.config.run.startSecs + sweep.config.departureWindow := by
  have filled (entries : List (Nat × Nat)) (draft : PopulationDraft) (timed : sweep.Timed draft) :
      sweep.Timed (entries.foldl (fun draft entry =>
        sweep.addAgents ⟨entry.2⟩ entry.1 draft) draft) := by
    induction entries generalizing draft with
    | nil => exact timed
    | cons entry rest ih => exact ih _ (timed.addAgents positive _ _)
  obtain ⟨-, rfl⟩ := PopulationDraft.build_eq_ok.mp made
  exact filled _ _ fun agent member => absurd member (Array.not_mem_empty agent)

end Sweep

namespace Sweep

variable {sweep : Sweep Rat} {config : SweepConfig Rat} {agents : List Nat}
  {population : Population} {start : Sim Rat (OvertakeCounter Rat)} {link : LinkId}

/-- Both buffers have a storage of their own, and none of them leads back to where it begins. -/
theorem Accepted.buffer (accepted : sweep.Accepted config)
    (buffer : link = sweep.track.ring.home ∨ link = sweep.track.ring.exit) :
    ∃ attributes, sweep.track.network.link? link = some attributes ∧
      attributes.start ≠ attributes.finish ∧
      ∀ cell, attributes.storageFor cell = TestTrack.bufferStorage := by
  have built := TestTrack.built_of_build accepted.track
  have positive := built.subdivision
  obtain rfl | rfl := buffer
  · refine ⟨_, built.link?_home, fun same => ?_, fun cell => rfl⟩
    have index := congrArg Key.index same
    simp only [TestTrack.linkBetween] at index
    omega
  · refine ⟨_, built.link?_work, fun same => ?_, fun cell => rfl⟩
    have index := congrArg Key.index same
    simp only [TestTrack.linkBetween] at index
    omega

/-- A point that the buffers can hold is never held back by them. -/
theorem Accepted.not_refuses (accepted : sweep.Accepted config)
    (made : sweep.population agents = .ok population)
    (within : sweep.load agents ≤ TestTrack.bufferStorage + Quantity.slack)
    (built : (sweep.setup population).build = .ok start)
    {history : List (Interval Rat)} {sim : Sim Rat (OvertakeCounter Rat)}
    (run : Sim.Run start history sim) {passage : Passage Rat} (next : passage.world = sim.world)
    (buffer : link = sweep.track.ring.home ∨ link = sweep.track.ring.exit) (id : AgentId) :
    ¬passage.Refuses link id := by
  obtain ⟨attributes, known, straight, storage⟩ := accepted.buffer buffer
  obtain ⟨draft, drafted, populated⟩ := (peoples_of_population made).populated
  refine run.not_refuses (TestTrack.built_of_build accepted.track).network
    (drafted.fresh_of_build populated) built known straight ?_ next id
  rw [storage]
  exact (load_of_population made).trans_le within

/-- A point that `home` cannot hold is held back by it, if all depart at once and nobody seeps. -/
theorem Accepted.exists_rejects (accepted : sweep.Accepted config)
    (made : sweep.population agents = .ok population)
    (built : (sweep.setup population).build = .ok start)
    (regular : config.dynamics.seepage = none) (together : config.departureWindow = 1)
    (beyond : TestTrack.bufferStorage + Quantity.slack < sweep.load agents) :
    ∃ passage : Passage Rat, passage.world = start.world ∧
      passage.flowPermanent = start.flowPermanent ∧
      ∃ id, passage.Rejects sweep.track.ring.home id := by
  have whole := TestTrack.built_of_build accepted.track
  have peoples := peoples_of_population made
  obtain ⟨attributes, known, -, storage⟩ := accepted.buffer (.inl rfl)
  refine Sim.exists_rejects (whole.sensible peoples) built ?_ known ?_ fun id agent found => ?_
  · exact (congrArg (·.dynamics.seepage) accepted.own).trans regular
  · have small : (sweep.setup population).table.maxPcu ≤ TestTrack.bufferStorage :=
      (ModeTable.maxPcu_le_of_ofPresets accepted.table).trans
        (by norm_num [TestTrack.bufferStorage])
    rw [storage, max_eq_left small]
    exact beyond.trans_eq (load_of_population made).symm
  · have member := Array.mem_of_getElem? found
    constructor
    · intro other context going
      rw [peoples.circling agent member]
      exact ⟨by rw [Driver.departs, going]; rfl, rfl⟩
    · have window : sweep.config.departureWindow = 1 := accepted.own ▸ together
      obtain ⟨early, late⟩ := timed_of_population (by omega) made agent member
      have secs : agent.departureSecs = sweep.config.run.startSecs := by omega
      have zero (tickSecs : Nat) : Tick.covering tickSecs 0 = 0 := by
        rw [Tick.covering, Nat.div_eq_zero_iff]
        omega
      rw [Population.dueAt, found, Option.elim_some, secs]
      exact (congrArg _ (Nat.sub_self _)).trans (zero _)

/-- Where the buffers hold back the traffic of a point, and where they do not. Their storage does
not depend on the settings, while the load of the points grows with the length of the ring, its
lanes and the step from point to point. No buffer turns anybody away if the point does not load it
beyond its storage. If it does, `home` rejects departures as soon as all are due at once and nobody
may seep. -/
theorem buffers_hold_nobody_back (new : Sweep.new config = .ok sweep)
    (made : sweep.population agents = .ok population)
    (built : (sweep.setup population).build = .ok start) :
    (agents ∈ sweep.points → sweep.load agents ≤ config.pcuCapacity + Mix.overload *
      max 1 (sweep.load (Mix.steps sweep.table.pcus config.split config.reduce))) ∧
      (sweep.load agents ≤ TestTrack.bufferStorage + Quantity.slack →
        ∀ history sim, Sim.Run start history sim → ∀ passage : Passage Rat,
          passage.world = sim.world → ∀ id, ¬passage.Refuses sweep.track.ring.home id ∧
            ¬passage.Refuses sweep.track.ring.exit id ∧
            ∀ link, .gaveUp id link ∉ passage.course.departures) ∧
      (TestTrack.bufferStorage + Quantity.slack < sweep.load agents →
        config.dynamics.seepage = none → config.departureWindow = 1 →
        ∃ passage : Passage Rat, passage.world = start.world ∧
          passage.flowPermanent = start.flowPermanent ∧
          ∃ id, passage.Rejects sweep.track.ring.home id) := by
  have accepted := accepted_of_new new
  refine ⟨accepted.load_of_points, fun within history sim run passage next id => ?_,
    fun beyond regular together => accepted.exists_rejects made built regular together beyond⟩
  have home := accepted.not_refuses made within built run next (.inl rfl) id
  refine ⟨home, accepted.not_refuses made within built run next (.inr rfl) id,
    fun link gaveUp => ?_⟩
  -- A circling driver begins with `home`, so only there could it give up.
  obtain ⟨agent, context, found, first⟩ := run.firstLink?_of_gaveUp built next gaveUp
  rw [(peoples_of_population made).circling agent (Array.mem_of_getElem? found)] at first
  cases first
  exact home (.departing (.inr gaveUp))

/-- A sweep of cars and trucks that depart in one second or the next. -/
def mixedSweep : SweepConfig Rat where
  modes := ["car", "truck"]
  split := [1 / 2, 1 / 2]
  reduce := 1
  departureWindow := 2
  run := { endSecs := 20 }

/-- Three cars and a truck find room, one of the four in the first second and three in the next. -/
theorem buffers_hold_nobody_back_of_four :
    ∃ (sweep : Sweep Rat) (population : Population) (start sim : Sim Rat (OvertakeCounter Rat))
      (history : List (Interval Rat)) (passage : Passage Rat),
      Sweep.new mixedSweep = .ok sweep ∧ [3, 1] ∈ sweep.points ∧
        sweep.population [3, 1] = .ok population ∧ population.size = 4 ∧
        (sweep.setup population).build = .ok start ∧
        sweep.load [3, 1] ≤ TestTrack.bufferStorage + Quantity.slack ∧
        Sim.Run start history sim ∧ sim.totals.departed = 1 ∧ passage.world = sim.world ∧
        passage.interval.summary.departed = 3 ∧
        ∀ id, ¬passage.Refuses sweep.track.ring.home id ∧
          ¬passage.Refuses sweep.track.ring.exit id ∧
          ∀ link, .gaveUp id link ∉ passage.course.departures := by
  have ran : ((Sweep.new mixedSweep).toOption.bind fun sweep =>
      (sweep.population [3, 1]).toOption.bind fun population =>
      (sweep.setup population).build.toOption.bind fun start =>
      (start.runTicks {} 1).toOption.bind fun sim =>
      (sim.world.interval sim.flowPermanent).toOption.map fun interval =>
        (sweep.points.contains [3, 1], sweep.load [3, 1], population.size, sim.totals.departed,
          interval.summary.departed)) = some (true, 6, 4, 1, 3) := by decide +kernel
  simp only [Option.bind_eq_some_iff, Option.map_eq_some_iff, Attempt.toOption_eq_some,
    Prod.mk.injEq] at ran
  obtain ⟨sweep, new, population, made, start, built, sim, ticked, interval, simulated, point, load,
    size, before, after⟩ := ran
  obtain ⟨history, -, run⟩ := Sim.Run.start.runTicks ticked
  obtain ⟨passage, here, -, rfl⟩ := World.exists_passage simulated
  have within : sweep.load [3, 1] ≤ TestTrack.bufferStorage + Quantity.slack := by
    rw [load]
    norm_num [TestTrack.bufferStorage, Quantity.slack, Quantity.fraction]
  have holds := (buffers_hold_nobody_back new made built).2.1 within history sim run passage here
  exact ⟨sweep, population, start, sim, history, passage, new, by simpa using point, made, size,
    built, within, run, before, here, after, holds⟩

/-- A sweep of trucks, more by `reduce` from point to point, that all depart at once. -/
def truckSweep (reduce : Nat) : SweepConfig Rat where
  modes := ["truck"]
  split := [1]
  reduce := reduce
  departureWindow := 1
  run := { endSecs := 20 }

/-- A point of its sweep, 3334 trucks count for two units more than `home` can hold. -/
theorem home_rejects_trucks :
    ∃ (sweep : Sweep Rat) (population : Population) (start : Sim Rat (OvertakeCounter Rat))
      (passage : Passage Rat) (id : AgentId), Sweep.new (truckSweep 3334) = .ok sweep ∧
        [3334] ∈ sweep.points ∧ sweep.population [3334] = .ok population ∧
        (sweep.setup population).build = .ok start ∧ passage.world = start.world ∧
        passage.flowPermanent = start.flowPermanent ∧
        passage.Rejects sweep.track.ring.home id := by
  have made : ((Sweep.new (truckSweep 3334)).toOption.bind fun sweep =>
      (sweep.setup ⟨#[]⟩).build.toOption.map fun _ =>
        (sweep.points.contains [3334], sweep.load [3334], sweep.table.size)) =
      some (true, 10002, 1) := by decide +kernel
  simp only [Option.bind_eq_some_iff, Option.map_eq_some_iff, Attempt.toOption_eq_some,
    Prod.mk.injEq] at made
  obtain ⟨sweep, new, _, empty, point, load, size⟩ := made
  have listed : [3334].length ≤ sweep.table.size := size.ge
  obtain ⟨population, made⟩ := exists_population listed
  obtain ⟨start, built⟩ := exists_build made empty
  have beyond : TestTrack.bufferStorage + Quantity.slack < sweep.load [3334] := by
    rw [load]
    norm_num [TestTrack.bufferStorage, Quantity.slack, Quantity.fraction]
  obtain ⟨passage, here, same, id, rejected⟩ :=
    (accepted_of_new new).exists_rejects made built rfl rfl beyond
  exact ⟨sweep, population, start, passage, id, new, by simpa using point, made, built, here, same,
    rejected⟩

end Sweep

end MixedTraffic

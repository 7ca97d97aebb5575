import MixedTraffic.Proofs.Run.Accord
import MixedTraffic.Proofs.Run.Preparation

namespace MixedTraffic

/-! Who watches a run does not change it, as long as no driver looks at what they find out. -/

open Attempt (Agree)

variable {α σ τ : Type} [Quantity α]

/-- That two setups differ at most in who watches. -/
structure SimSetup.SameTraffic (setup : SimSetup α σ) (setup' : SimSetup α τ) : Prop where
  config : setup'.config = { setup.config with outputEvery := setup'.config.outputEvery }
  network : setup'.network = setup.network
  table : setup'.table = setup.table
  population : setup'.population = setup.population
  dynamics : setup'.dynamics = setup.dynamics
  changes : setup'.changes = setup.changes

theorem SimSetup.SameTraffic.world {setup : SimSetup α σ} {setup' : SimSetup α τ}
    {start : Sim α σ} {start' : Sim α τ} (same : setup.SameTraffic setup')
    (built : setup.build = .ok start) (built' : setup'.build = .ok start') :
    start'.world = start.world := by
  obtain ⟨roads, opened, world⟩ := (SimSetup.build_eq_ok built).world
  obtain ⟨roads', opened', world'⟩ := (SimSetup.build_eq_ok built').world
  rw [same.network, same.dynamics, same.table, same.config, opened] at opened'
  cases opened'
  rw [world, world', same.network, same.table, same.config, same.population, same.changes]
  rfl

theorem Traffic.departAll_eq_of_indifferent {table : ModeTable α} {context context' : RouteContext}
    {traffic : Traffic α} {due : List AgentId}
    (indifferent : traffic.population.Indifferent context context')
    (known : ∀ id ∈ due, id.index < traffic.population.size)
    (now : context'.now = context.now) :
    traffic.departAll table context' due = traffic.departAll table context due := by
  have agree := (Joined.refl traffic).departAll table now indifferent known
  refine (agree.imp ?_ ?_).eq.symm
  · rintro ⟨_, reached⟩ ⟨cause, reached'⟩ ⟨rfl, joined⟩
    obtain rfl := joined.eq
    rfl
  · rintro ⟨_, reached⟩ ⟨outcomes, reached'⟩ ⟨rfl, joined⟩
    obtain rfl := joined.eq
    rfl

namespace World

variable {world : World α} {flowPermanent flowPermanent' : Bool}

theorem departures?_eq_of_indifferent (placed : world.Placed)
    (indifferent : world.population.Indifferent (world.context flowPermanent)
      (world.context flowPermanent')) :
    world.departures? (world.context flowPermanent') =
      world.departures? (world.context flowPermanent) := by
  let traffic : Traffic α := { roads := world.roads, population := world.population }
  have same (table : ModeTable α) :
      traffic.departAll table (world.context flowPermanent') _ =
        traffic.departAll table (world.context flowPermanent) _ :=
    Traffic.departAll_eq_of_indifferent indifferent placed.index_lt_of_due rfl
  refine Attempt.bind_congr ?_
  rintro ⟨due, calendar⟩ drained
  rw [Attempt.elim_eq_ok, Calendar.drain?_eq_some] at drained
  obtain ⟨-, drained⟩ := drained
  change world.departures.drain world.clock.now = _ at drained
  rw [drained] at same
  dsimp only
  rw [same]
  rfl

/-- An interval in which no driver minds whether flow is permanent. -/
theorem interval_eq_of_indifferent (placed : world.Placed)
    (indifferent : world.population.Indifferent (world.context flowPermanent)
      (world.context flowPermanent')) :
    world.interval flowPermanent' = world.interval flowPermanent := by
  refine Attempt.bind_congr fun changed made => ?_
  have revises := applyChanges_revises made
  have whole := placed.refilled made
  rw [← revises.population, context, context, ← revises.clock] at indifferent
  have departs := departures?_eq_of_indifferent whole indifferent
  simp only [context, ← revises.clock] at departs ⊢
  rw [departs]
  refine Attempt.bind_congr ?_
  rintro ⟨outcomes, midway, calendar⟩ departed
  obtain ⟨-, -, ⟨happenings, -, steps⟩, -⟩ := departures?_eq_ok.mp departed
  have settled := whole.traffic.steps steps
  have now : (changed.context flowPermanent').now = (changed.context flowPermanent).now := rfl
  have decides := (Traffic.Joined.refl midway).decideAll changed.network now
    (Population.Indifferent.of_steps indifferent steps) settled.labelled fun id rides =>
      Population.isSome_get?.mp (settled.known (.inr rides))
  simp only [context] at decides ⊢
  rw [decides]

end World

/-- Two runs with the same history that are in the same state. -/
structure Sim.RunsAlike (start : Sim α σ) (start' : Sim α τ) (history : List (Interval α))
    (sim : Sim α σ) (sim' : Sim α τ) : Prop where
  run : Run start history sim
  run' : Run start' history sim'
  world : sim'.world = sim.world
  totals : sim'.totals = sim.totals

namespace Sim.RunsAlike

variable {start sim : Sim α σ} {start' sim' : Sim α τ} {history : List (Interval α)}

theorem step (alike : RunsAlike start start' history sim sim')
    (same : sim.world.interval sim'.flowPermanent = sim.world.interval sim.flowPermanent)
    (observer : Observer α σ) (observer' : Observer α τ) :
    Agree (Stalled (RunsAlike start start' history) (fun world world' => world' = world) observer
        observer')
      (fun next next' => ∃ interval, RunsAlike start start' (history ++ [interval]) next.2 next'.2)
      (sim.step observer) (sim'.step observer') := by
  have agree : Agree (Interrupted.Alike fun world world' => world' = world) Eq
      (sim.world.interval sim.flowPermanent) (sim'.world.interval sim'.flowPermanent) := by
    rw [alike.world, same]
    exact (Agree.same _).imp (fun _ _ same => same ▸ ⟨rfl, rfl⟩) fun _ _ same => same
  refine (step_agree agree alike observer observer').imp (fun _ _ same => same) ?_
  rintro ⟨stop, next⟩ ⟨stop', next'⟩ ⟨interval, _, ran, ran', rfl, stepped, stepped'⟩
  obtain ⟨_, again, takes⟩ := step_eq_ok stepped
  obtain ⟨_, again', takes'⟩ := step_eq_ok stepped'
  cases ran.symm.trans again
  cases ran'.symm.trans again'
  refine ⟨interval, alike.run.step ran stepped, alike.run'.step ran' stepped', ?_, ?_⟩
  · rw [takes.world, takes'.world]
  · rw [takes.totals, takes'.totals, alike.totals]

end Sim.RunsAlike

/-- Two runs of the same traffic, all of it on fixed routes, go the same way whoever watches them:
with a tracker or without, with any log, listeners and observers, and whatever is put out. They
succeed together or stop in the same interval for the same reason, having had the same history. The
roads, the population, the calendar and the counters are the same then, also where an interval has
been left half done. -/
theorem Sim.runTicks_of_sameTraffic {setup : SimSetup α σ} {setup' : SimSetup α τ}
    {start : Sim α σ} {start' : Sim α τ} {draft : PopulationDraft}
    (same : setup.SameTraffic setup') (drafted : draft.Drafted)
    (populated : draft.build setup.table = .ok setup.population)
    (fixed : ∀ agent ∈ setup.population.agents, ∃ route, agent.driver = .fixed route)
    (built : setup.build = .ok start) (built' : setup'.build = .ok start') (count : Nat)
    (observer : Observer α σ) (observer' : Observer α τ) :
    Agree
      (Stalled (fun sim sim' => ∃ history, history.length < count ∧
          RunsAlike start start' history sim sim')
        (fun world world' => world' = world) observer observer')
      (fun sim sim' => ∃ history, history.length = count ∧
        RunsAlike start start' history sim sim')
      (start.runTicks observer count) (start'.runTicks observer' count) := by
  have fresh := drafted.fresh_of_build populated
  have unmoved (context context' : RouteContext) :
      start.world.population.Indifferent context context' := by
    obtain ⟨roads, -, world⟩ := (SimSetup.build_eq_ok built).world
    rw [world]
    intro id agent found
    obtain ⟨route, own⟩ := fixed agent (Array.mem_of_getElem? found)
    exact own ▸ Driver.indifferent_fixed route context context'
  have starts : RunsAlike start start' [] start start' := by
    refine ⟨.start, .start, same.world built built', ?_⟩
    rw [(SimSetup.build_eq_ok built').totals, (SimSetup.build_eq_ok built).totals]
  refine runTicks_agree (fun tick sim sim' => ∃ history, history.length = tick ∧
    RunsAlike start start' history sim sim') ?_ ⟨[], rfl, starts⟩
  rintro tick bound sim sim' ⟨history, length, alike⟩
  have ran := alike.run.world
  have indifferent := ran.preserves _ (fun held simulated =>
    World.interval_indifferent simulated held) (unmoved (sim.world.context sim.flowPermanent)
      (sim.world.context sim'.flowPermanent))
  have unchanged := World.interval_eq_of_indifferent ((World.Placed.of_build built fresh).run ran)
    indifferent
  refine (alike.step unchanged observer observer').imp ?_ ?_
  · rintro stopped stopped' ⟨cause, world, before, before', alike, fails⟩
    exact ⟨cause, world, before, before', ⟨history, length ▸ bound, alike⟩, fails⟩
  · rintro next next' ⟨interval, alike⟩
    exact ⟨history ++ [interval], by rw [List.length_append, length, List.length_singleton], alike⟩

namespace Bottleneck

/-- The setup with a tracker that is soon content, a log, and a listener who counts events. -/
def counted (network : Network Rat) (population : Population) : SimSetup Rat Nat where
  config := { endSecs := 10, outputEvery := 0 }
  network := network
  table := table
  population := population
  dynamics := { seepage := some { modes := ["wide"], fraction := 1 } }
  tracker := some { binTicks := 1, windowBins := 1, tolerance := 100000, stableBins := 1 }
  keepEvents := true
  bus := { listeners := [{ hear := fun _ heard => heard + 1 }], memory := 0 }

theorem counted_sameTraffic (network : Network Rat) (population : Population) :
    (setup network population).SameTraffic (counted network population) :=
  ⟨rfl, rfl, rfl, rfl, rfl, rfl⟩

/-- Flow is permanent to the tracker before the second vehicle departs. -/
theorem runTicks_of_counted :
    ∃ network population start start' sim sim' history, draft.build = .ok network ∧
      (crowd [(wide, 0, [entry, exit]), (wide, 2, [entry, exit])]).build table =
        .ok population ∧
      (setup network population).build = .ok start ∧
      (counted network population).build = .ok start' ∧ start.runTicks {} 4 = .ok sim ∧
      start'.runTicks {} 4 = .ok sim' ∧ sim.flowPermanent = false ∧ sim'.flowPermanent = true ∧
      sim'.bus.memory = 10 ∧ history.length = 4 ∧
      Sim.RunsAlike start start' history sim sim' := by
  have ran : drive? draft [(wide, 0, [entry, exit]), (wide, 2, [entry, exit])] setup 4
      (fun network population _ sim =>
        (counted network population).build.toOption.bind fun start' =>
        (start'.runTicks {} 4).toOption.map fun sim' =>
          (sim.flowPermanent, sim'.flowPermanent, sim'.bus.memory)) =
      some (false, true, 10) := by decide +kernel
  obtain ⟨network, population, start, sim, _, connected, populated, built, ticked, -, seen⟩ :=
    exists_of_drive? ran
  simp only [Option.bind_eq_some_iff, Option.map_eq_some_iff, Attempt.toOption_eq_some,
    Prod.mk.injEq] at seen
  obtain ⟨start', built', sim', ticked', open', permanent, heard⟩ := seen
  have fixed : ∀ agent ∈ population.agents, ∃ route, agent.driver = .fixed route := by
    intro agent member
    obtain ⟨trip, -, own⟩ := exists_trip_of_build populated member
    exact ⟨_, own⟩
  have agree := Sim.runTicks_of_sameTraffic (counted_sameTraffic network population)
    (crowd_drafted _) populated fixed built built' 4 {} {}
  rw [ticked, ticked'] at agree
  obtain ⟨history, length, alike⟩ := agree
  exact ⟨network, population, start, start', sim, sim', history, connected, populated, built,
    built', ticked, ticked', open', permanent, heard, length, alike⟩

end Bottleneck

end MixedTraffic

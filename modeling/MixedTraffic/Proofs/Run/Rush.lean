import MixedTraffic.Proofs.Run.Ample
import MixedTraffic.Proofs.Run.Success

namespace MixedTraffic

/-! Where all agents of a population depart at once, a link that cannot hold all their vehicles
turns somebody away. -/

namespace Roads

variable {roads : Roads Rat} {link : LinkId} {queue : LinkQueue Rat}

theorem Accounted.burden_le_storage (accounted : roads.Accounted)
    (nobody : ∀ mode, roads.seeps mode = false) (present : roads.queue? link = some queue) :
    roads.burden link ≤ queue.storage + Quantity.slack := by
  have account := accounted link queue present
  have regular : queue.vehicles.filter (·.seeping == false) = queue.vehicles := by
    refine List.filter_eq_self.mpr fun vehicle aboard => ?_
    cases seeping : vehicle.seeping with
    | false => rfl
    | true => cases (nobody vehicle.mode).symm.trans (account.seeping vehicle aboard seeping)
  have held : LinkQueue.held false queue.vehicles = roads.burden link := by
    rw [LinkQueue.held, regular, burden_eq present]
  rw [← held, ← account.occupied]
  exact account.within

end Roads

namespace Traffic

variable {table : ModeTable Rat} {context : RouteContext} {traffic traffic' : Traffic Rat}
  {happening : Happening} {happenings : List Happening} {pcuOf : AgentId → Rat} {link : LinkId}

theorem Step.burden_of_departed {id : AgentId} (weighs : traffic.Weighs table pcuOf)
    (step : Step table context traffic (.departed id link) traffic') :
    traffic'.roads.burden link = pcuOf id + traffic.roads.burden link := by
  cases step with
  | @departed _ _ _ _ _ queue vehicle seeping _ found _ _ _ present built =>
      have joined := ((queue.holding_perm
        (queue.stamped vehicle context.now seeping)).map (·.pcu)).sum_eq
      rw [Roads.burden_eq present, ← weighs.pcu_of_new? found built]
      refine (Roads.burden_eq (Roads.queue?_setQueue_self present _)).trans (joined.trans ?_)
      rw [List.map_cons, List.sum_cons]
      rfl

theorem Steps.burden_of_departed (weighs : traffic.Weighs table pcuOf)
    (labelled : traffic.roads.Labelled)
    (only : ∀ happening ∈ happenings, ∃ id, happening = .departed id link)
    (steps : Steps table context traffic happenings traffic') :
    traffic'.roads.burden link =
      ((happenings.map (·.agent)).map pcuOf).sum + traffic.roads.burden link := by
  induction steps with
  | nil => exact (zero_add _).symm
  | cons step _ ih =>
      obtain ⟨⟨id, rfl⟩, others⟩ := List.forall_mem_cons.mp only
      rw [ih (weighs.step labelled step) (step.labelled labelled) others,
        step.burden_of_departed weighs, List.map_cons, List.map_cons, List.sum_cons, add_comm,
        add_right_comm]
      rfl

end Traffic

/-- That an agent sets out on a link as long as flow is not permanent. -/
def Agent.SetsOut (agent : Agent) (link : LinkId) : Prop :=
  ∀ id context, context.flowPermanent = false →
    agent.driver.departs context = true ∧ agent.driver.firstLink? id context = some link

namespace Traffic

variable {α : Type} [Quantity α] {table : ModeTable α} {context : RouteContext}
  {traffic traffic' : Traffic α} {happening : Happening} {happenings : List Happening}
  {link : LinkId}

theorem Step.of_setsOut (going : context.flowPermanent = false)
    (setOut : ∀ id agent, traffic.population.get? id = some agent → agent.SetsOut link)
    (departs : happening.departure? ≠ none)
    (step : Step table context traffic happening traffic') :
    ∃ id, happening = .departed id link ∨ happening = .turnedAway id link ∨
      happening = .gaveUp id link := by
  cases step with
  | @departed id _ agent _ _ _ _ _ _ found _ first =>
      cases first.symm.trans (setOut id agent found id context going).2
      exact ⟨id, .inl rfl⟩
  | @skipped id agent _ found stays =>
      cases stays.symm.trans (setOut id agent found id context going).1
  | @turnedAway id _ agent _ _ _ found _ first =>
      cases first.symm.trans (setOut id agent found id context going).2
      exact ⟨id, .inr (.inl rfl)⟩
  | @gaveUp id _ agent _ _ _ _ found _ first =>
      cases first.symm.trans (setOut id agent found id context going).2
      exact ⟨id, .inr (.inr rfl)⟩
  | transferred | arrived | removed | heldUp => exact absurd rfl departs

theorem Steps.of_setsOut (going : context.flowPermanent = false)
    (setOut : ∀ id agent, traffic.population.get? id = some agent → agent.SetsOut link)
    (departing : ∀ happening ∈ happenings, happening.departure? ≠ none)
    (steps : Steps table context traffic happenings traffic') :
    ∀ happening ∈ happenings, ∃ id, happening = .departed id link ∨
      happening = .turnedAway id link ∨ happening = .gaveUp id link := by
  induction steps with
  | nil => exact List.forall_mem_nil _
  | cons step _ ih =>
      obtain ⟨first, others⟩ := List.forall_mem_cons.mp departing
      refine List.forall_mem_cons.mpr ⟨step.of_setsOut going setOut first, ih ?_ others⟩
      intro id agent found
      obtain ⟨old, present, -, driver, -⟩ :=
        Population.exists_of_unbegun found (step.unbegun id)
      unfold Agent.SetsOut
      rw [← driver]
      exact setOut id old present

end Traffic

namespace Passage

variable {passage : Passage Rat} {table : ModeTable Rat} {link : LinkId} {due : AgentId → Tick}

/-- When all are due, everybody tries to depart. -/
theorem tried_perm {α : Type} [Quantity α] {passage : Passage α}
    (placed : passage.world.Placed) (punctual : passage.world.Punctual due)
    (everyone : ∀ id agent, passage.world.population.get? id = some agent →
      agent.trip.IsPending ∧ due id ≤ passage.tick) :
    passage.tried.Perm ((List.range passage.world.population.size).map Key.mk) := by
  have parts := Calendar.drain_append passage.world.departures passage.tick
  have distinct := placed.traffic.nodup_pending
  rw [← parts, ← passage.tried_eq_drain] at distinct
  refine (List.perm_ext_iff_of_nodup (List.nodup_append.mp distinct).1
    (Key.nodup_map_range _)).mpr fun id => ?_
  rw [Population.mem_keys_iff, mem_tried punctual]
  constructor
  · intro entered
    exact placed.traffic.known (.inl entered.1)
  · intro known
    obtain ⟨agent, found⟩ := Option.isSome_iff_exists.mp known
    obtain ⟨pending, reached⟩ := everyone id agent found
    exact ⟨placed.mem_entries_of_isPending found pending, reached⟩

end Passage

theorem SimSetup.flowPermanent_of_build {α σ : Type} [Quantity α] {setup : SimSetup α σ}
    {start : Sim α σ} (built : setup.build = .ok start) : start.flowPermanent = false := by
  simp only [build, Attempt.bind_eq_ok, Attempt.mapError_eq_ok, Attempt.pure_eq_ok] at built
  obtain ⟨_, -, _, -, roads, -, tracker?, -, rfl⟩ := built
  rfl

/-- In the first interval of a run, a link that cannot hold everybody turns somebody away if all
set out on it then and nobody may seep. -/
theorem Sim.exists_rejects {σ : Type} {setup : SimSetup Rat σ} {start : Sim Rat σ}
    (sensible : setup.Sensible) (built : setup.build = .ok start)
    (regular : setup.dynamics.seepage = none) {link : LinkId} {attributes : Link Rat}
    (known : setup.network.link? link = some attributes)
    (full : max (attributes.storageFor setup.dynamics.cell) setup.table.maxPcu + Quantity.slack <
      setup.population.load setup.table)
    (rush : ∀ id agent, setup.population.get? id = some agent →
      agent.SetsOut link ∧ setup.population.dueAt setup.config.clock id = 0) :
    ∃ passage : Passage Rat, passage.world = start.world ∧
      passage.flowPermanent = start.flowPermanent ∧ ∃ id, passage.Rejects link id := by
  obtain ⟨⟨links, connected⟩, ⟨draft, drafted, populated⟩, -⟩ := id sensible
  have fresh := drafted.fresh_of_build populated
  have narrow : setup.dynamics.SeepsNarrow setup.table := by
    rintro mode other type type' - - ⟨seepage, _, given, -⟩
    cases regular.symm.trans given
  obtain ⟨stop, sim, stepped⟩ := Sim.Run.start.exists_step sensible built narrow {}
  obtain ⟨interval, simulated, -⟩ := Sim.step_eq_ok stepped
  obtain ⟨passage, here, same, -⟩ := World.exists_passage simulated
  refine ⟨passage, here, same, ?_⟩
  by_contra nobody
  have starts := SimSetup.build_eq_ok built
  obtain ⟨roads, opened, world⟩ := starts.world
  have placed := World.Placed.of_build built fresh
  have punctual := World.Punctual.of_build built fresh
  have ready := World.Regular.of_build built fresh
  have measured := World.Measured.of_build connected built
  rw [← here] at placed punctual ready measured world
  have population : passage.world.population = setup.population := by rw [world]
  have rated : passage.course.changed.table = setup.table :=
    passage.follows.revises.table.trans measured.rated
  have before := Passage.placed ready
  have departed := rated ▸ passage.follows.departed
  have going := same.trans (SimSetup.flowPermanent_of_build built)
  have boarding := departed.of_setsOut going (fun id agent found => (rush id agent
    (population ▸ passage.follows.revises.population ▸ found)).1)
    (Happening.departure?_ne_none passage.follows.named)
  have only : ∀ happening ∈ passage.course.departures, ∃ id, happening = .departed id link := by
    intro happening listed
    obtain ⟨id, rfl | rfl | rfl⟩ := boarding happening listed
    · exact ⟨id, rfl⟩
    · exact absurd ⟨id, .inl listed⟩ nobody
    · exact absurd ⟨id, .inr listed⟩ nobody
  -- So the vehicles of all agents are on the link.
  have loaded := departed.burden_of_departed (measured.refilled passage.follows.changed)
    before.labelled only
  have everyone := Passage.tried_perm placed punctual fun id agent found => by
    rw [population] at found
    rw [(rush id agent found).2, (fresh found).2]
    exact ⟨Trip.isPending_new, Nat.zero_le _⟩
  rw [passage.map_agent_departures, (everyone.map _).sum_eq, population,
    ← Population.load_eq_sum_pcuOf] at loaded
  have enduring := Roads.Accounted.enduring.and
    ((Enduring.rules roads).and (Enduring.sites roads))
  have initial : passage.world.roads.Accounted ∧ passage.world.roads.rules = roads.rules ∧
      passage.world.roads.sites = roads.sites := by
    rw [world]
    exact ⟨Roads.accounted_ofNetwork opened, rfl, rfl⟩
  have refilled := enduring.refilled initial passage.follows.changed
  obtain ⟨accounted, rules, sites⟩ := enduring.steps refilled departed
  have nobodySeeps (mode : ModeId) : passage.course.midway.roads.seeps mode = false := by
    rw [Roads.seeps_eq_of_rules rules, ← Bool.not_eq_true, Roads.seeps_eq_true_iff opened]
    rintro ⟨seepage, _, given, -⟩
    cases regular.symm.trans given
  obtain ⟨queue, present, site⟩ := Roads.site_eq_of_sites sites.symm
    ((Roads.queue?_of_ofNetwork opened link).trans (congrArg _ known))
  have storage : queue.storage =
      max (attributes.storageFor setup.dynamics.cell) setup.table.maxPcu :=
    (congrArg Site.storage site).symm.trans (Quantity.larger_eq_max ..)
  have within := accounted.burden_le_storage nobodySeeps present
  rw [loaded, storage] at within
  linarith [refilled.1.burden_nonneg link]

end MixedTraffic

import MixedTraffic.Proofs.Run.Breakdown

namespace MixedTraffic

/-! Every run goes on, whatever is built on a table and its rules, exactly where no mode that
may seep is larger than one that may not. -/

theorem World.applyChanges_of_none {α : Type} [Quantity α] {world : World α}
    (unchanging : world.changes = []) : world.applyChanges = .ok world := by
  rw [applyChanges, unchanging]
  rfl

namespace Squeeze

variable {table : ModeTable Rat} {dynamics : Dynamics Rat} {squeeze : Squeeze table dynamics}
  {traffic : Traffic Rat} {context : RouteContext}

section Opening

/-- Roads as they are opened, apart from the flow of their queues. -/
structure Open (squeeze : Squeeze table dynamics) (roads : Roads Rat) : Prop where
  inbound : roads.inbound = #[[target], [source], []]
  seeps : ∀ mode, roads.seeps mode = true ↔ dynamics.LetsSeep table mode
  ahead : ∃ queue, squeeze.Bare queue target squeeze.storage ∧ roads.queue? target = some queue
  coming : ∃ queue, squeeze.Bare queue source (squeeze.big.pcu + squeeze.small.pcu) ∧
    roads.queue? source = some queue

theorem open_of_ofNetwork {roads : Roads Rat}
    (opened : Roads.ofNetwork squeeze.network dynamics table 1 = .ok roads) :
    squeeze.Open roads := by
  have queues := Roads.queue?_of_ofNetwork opened
  refine ⟨?_, fun mode => Roads.seeps_eq_true_iff opened, ⟨_, bare_ofLink .., queues target⟩,
    ⟨_, bare_ofLink .., queues source⟩⟩
  obtain ⟨-, rfl⟩ := Roads.ofNetwork_eq_ok.mp opened
  change Roads.rankInbound dynamics.inboundOrder squeeze.network = _
  cases dynamics.inboundOrder with
  | byKey => rfl
  | byCapacity => simp [Roads.rankInbound, network]

theorem Open.refill {roads : Roads Rat} (opened : squeeze.Open roads) :
    squeeze.Open roads.refill := by
  obtain ⟨inbound, seeps, ⟨queue, bare, present⟩, ⟨queue', bare', present'⟩⟩ := opened
  exact ⟨inbound, seeps, ⟨_, bare.refill, Roads.queue?_refill present⟩,
    ⟨_, bare'.refill, Roads.queue?_refill present'⟩⟩

def vanguard : List Happening :=
  [.departed ⟨0⟩ target, .departed ⟨1⟩ source, .departed ⟨2⟩ source]

theorem Open.exists_departed (opened : squeeze.Open traffic.roads)
    (population : traffic.population = squeeze.population) (now : context.now = 0) :
    ∃ traffic', Traffic.Steps table context traffic vanguard traffic' ∧
      squeeze.Standing traffic'.roads traffic'.population [] ∧
      ∀ index, traffic'.population.get? ⟨index + 3⟩ =
        squeeze.population.get? ⟨index + 3⟩ := by
  obtain ⟨inbound, seeps, ⟨queue, bare, present⟩, ⟨queue', bare', present'⟩⟩ := opened
  obtain ⟨big, small⟩ := sizes_pos squeeze
  have slack := Quantity.slack_pos
  have ahead : squeeze.small.pcu ≤ queue.room.regular + Quantity.slack := by
    have kept : squeeze.small.pcu ≤ queue.room.regular := by
      rw [bare.room_regular]
      exact (ModeTable.pcu_le_maxPcu squeeze.narrowListed).trans (Quantity.le_larger_right _ _)
    linarith
  have behind : squeeze.big.pcu + squeeze.small.pcu ≤ queue'.room.regular := by
    rw [bare'.room_regular]
    exact Quantity.le_larger_left _ _
  -- The populations of the three moments differ only in those who have departed.
  have found₀ : traffic.population.get? ⟨0⟩ = (squeeze.crew squeeze.fillers)[0]? :=
    population ▸ squeeze.get?_population 0
  obtain ⟨vehicle, traffic₁, step₁, boarded, roads₁, population₁⟩ :=
    Traffic.exists_boarding_one present bare.flows.fifo squeeze.narrowListed found₀
      (show Agent.Awaits _ context _ _ _ from ⟨rfl, rfl, rfl, rfl⟩) ahead
  have found₁ : traffic₁.population.get? ⟨1⟩ = (squeeze.crew squeeze.fillers)[1]? := by
    rw [population₁, Population.get?_set found₀, if_neg (by decide), population,
      get?_population]
  have coming : traffic₁.roads.queue? source = some queue' := by
    rw [roads₁, Roads.queue?_setQueue present, if_neg (by decide), present']
  obtain ⟨first, traffic₂, step₂, boarded₁, roads₂, population₂⟩ :=
    Traffic.exists_boarding_one coming bare'.flows.fifo squeeze.wideListed found₁
      (show Agent.Awaits _ context _ _ _ from ⟨rfl, rfl, rfl, rfl⟩) (by linarith)
  have found₂ : traffic₂.population.get? ⟨2⟩ = (squeeze.crew squeeze.fillers)[2]? := by
    rw [population₂, Population.get?_set found₁, if_neg (by decide), population₁,
      Population.get?_set found₀, if_neg (by decide), population, get?_population]
  have joined : traffic₂.roads.queue? source = some (queue'.lined [first]) := by
    rw [roads₂, Roads.queue?_setQueue_self coming]
  obtain ⟨second, traffic₃, step₃, boarded₂, roads₃, population₃⟩ :=
    Traffic.exists_boarding_one joined (bare'.flows.lined _).fifo squeeze.narrowListed found₂
      (show Agent.Awaits _ context _ _ _ from ⟨rfl, rfl, rfl, rfl⟩) (by
        rw [LinkQueue.room_lined]
        simp only [List.map_cons, List.map_nil, List.sum_cons, List.sum_nil, boarded₁.pcu]
        linarith)
  have last (id : AgentId) : traffic₃.population.get? id = _ :=
    (congrArg (·.get? id) population₃).trans (Population.get?_set found₂ _ id)
  have middle (id : AgentId) : traffic₂.population.get? id = _ :=
    (congrArg (·.get? id) population₂).trans (Population.get?_set found₁ _ id)
  have early (id : AgentId) : traffic₁.population.get? id = _ :=
    (congrArg (·.get? id) population₁).trans (Population.get?_set found₀ _ id)
  refine ⟨traffic₃, .cons step₁ (.cons step₂ (.cons step₃ .nil)), ⟨?_, ?_, ?_, ?_, ?_⟩, ?_⟩
  · rw [roads₃, roads₂, roads₁]
    exact inbound
  · rw [roads₃, roads₂, roads₁]
    exact seeps
  · rw [now, bare.flows.smallTicks] at boarded
    refine ⟨queue, vehicle, bare, boarded, ?_⟩
    rw [roads₃, Roads.queue?_setQueue joined, if_neg (by decide), roads₂,
      Roads.queue?_setQueue coming, if_neg (by decide), roads₁, Roads.queue?_setQueue_self present]
  · rw [now, bare'.flows.bigTicks] at boarded₁
    rw [now, (bare'.flows.lined _).smallTicks] at boarded₂
    refine ⟨queue', first, second, bare', boarded₁, boarded₂, ?_⟩
    rw [roads₃, Roads.queue?_setQueue_self joined, LinkQueue.lined_lined]
    rfl
  · refine ⟨⟨_, (last _).trans ((if_neg (by decide)).trans ((middle _).trans
      ((if_neg (by decide)).trans ((early _).trans (if_pos rfl))))), rfl, rfl⟩,
      ⟨_, (last _).trans ((if_neg (by decide)).trans ((middle _).trans (if_pos rfl))), rfl, rfl⟩,
      ⟨_, (last _).trans (if_pos rfl), rfl, rfl⟩⟩
  · intro index
    rw [last, if_neg (by simp), middle, if_neg (by simp), early, if_neg (by simp), population]

end Opening

section Intervals

variable {world : World Rat} {flowPermanent : Bool}

/-- The world in which the second interval is simulated. -/
structure Loaded (squeeze : Squeeze table dynamics) (world : World Rat) : Prop where
  now : world.clock.now = 1
  changes : world.changes = []
  network : world.network = squeeze.network
  modes : world.table = table
  due : (world.departures.drain 1).1 = fillerIds squeeze.fillers
  standing : squeeze.Standing world.roads world.population []
  fillers : ∀ index, world.population.get? ⟨index + 3⟩ = squeeze.population.get? ⟨index + 3⟩

theorem exists_loaded {start : Sim Rat Unit} (built : squeeze.setup.build = .ok start)
    (flowPermanent : Bool) :
    ∃ interval, start.world.interval flowPermanent = .ok interval ∧
      squeeze.Loaded interval.next := by
  obtain ⟨roads, opened, initial⟩ := (SimSetup.build_eq_ok built).world
  have unchanging : start.world.changes = [] := by
    rw [initial]
    exact List.mergeSort_nil
  have departures : start.world.departures = squeeze.calendar := by rw [initial]; rfl
  obtain ⟨due, later⟩ := squeeze.drain_calendar
  have refilled : squeeze.Open start.world.refilled.roads := by
    rw [World.refilled, initial]
    exact (open_of_ofNetwork opened).refill
  have now : start.world.clock.now = 0 := by rw [initial]; rfl
  have network : start.world.network = squeeze.network := by rw [initial]; rfl
  have modes : start.world.table = table := by rw [initial]; rfl
  have population : start.world.population = squeeze.population := by rw [initial]; rfl
  have begins : (start.world.context flowPermanent).now = 0 := now
  obtain ⟨traffic, departed, standing, fillers⟩ := refilled.exists_departed population begins
  obtain ⟨decisions, decided, nothing⟩ := standing.idle begins
  let course : Course Rat := ⟨start.world, vanguard,
    [(⟨0⟩, .departed), (⟨1⟩, .departed), (⟨2⟩, .departed)], traffic, decisions, traffic⟩
  have follows : course.Follows start.world flowPermanent := by
    refine ⟨World.applyChanges_of_none unchanging, rfl, ?_, rfl, modes ▸ departed,
      network ▸ decided, ?_⟩
    · rw [now, departures, due]
      rfl
    · rw [Course.orders, nothing]
      exact .nil
  refine ⟨_, World.interval_eq_ok.mpr ⟨course, follows, rfl⟩, ?_, unchanging, network, modes, ?_,
    standing, fillers⟩
  · change start.world.clock.now + 1 = 1
    rw [now]
  · change ((start.world.departures.drain start.world.clock.now).2.drain 1).1 = _
    rw [now, departures, later]

theorem nodup_fillerIds (fillers : Nat) : (fillerIds fillers).Nodup :=
  List.nodup_range.map fun first second same => by simpa using same

theorem Loaded.exists_departed (loaded : squeeze.Loaded world) (now : context.now = 1) :
    ∃ vehicles traffic', Traffic.Steps table context world.refilled
        ((fillerIds squeeze.fillers).map fun id => .departed id target) traffic' ∧
      squeeze.Standing traffic'.roads traffic'.population vehicles ∧
      (vehicles.map (·.pcu)).sum = squeeze.fillers * squeeze.small.pcu ∧
      ∀ vehicle ∈ vehicles.head?, 1 < vehicle.exitTick := by
  have refilled : squeeze.Standing world.refilled.roads world.population [] :=
    loaded.standing.refill
  obtain ⟨inbound, seeps, ⟨queue, vehicle, bare, boarded, present⟩, coming, rides⟩ := refilled
  have small := (sizes_pos squeeze).2
  have enough := squeeze.enough
  have room : squeeze.small.pcu * (fillerIds squeeze.fillers).length ≤
      (queue.lined [vehicle]).room.regular + Quantity.slack := by
    have kept : squeeze.storage ≤ queue.room.regular := by
      rw [bare.room_regular]
      exact Quantity.le_larger_left _ _
    rw [storage] at kept
    rw [LinkQueue.room_lined]
    simp only [List.map_cons, List.map_nil, List.sum_cons, List.sum_nil, boarded.pcu, fillerIds,
      List.length_map, List.length_range]
    linarith
  have await : ∀ id ∈ fillerIds squeeze.fillers, ∃ agent,
      world.refilled.population.get? id = some agent ∧
        agent.Awaits context id squeeze.narrow target := by
    intro id member
    obtain ⟨index, bound, rfl⟩ := List.mem_map.mp member
    refine ⟨squeeze.filler index, ?_, rfl, rfl, rfl, rfl⟩
    rw [World.refilled, loaded.fillers, get?_population]
    have bound := List.mem_range.mp bound
    simp [crew, bound]
  obtain ⟨vehicles, traffic', steps, all, roads, population⟩ :=
    @Traffic.exists_boarding table context world.refilled target _ squeeze.narrow squeeze.small
      _ present (bare.flows.lined _).fifo squeeze.narrowListed await (nodup_fillerIds _) room
  have others {id : AgentId} {route : List LinkId} (older : id ∉ fillerIds squeeze.fillers)
      (before : Rides world.population id route) : Rides traffic'.population id route := by
    obtain ⟨agent, found, riding⟩ := before
    refine ⟨agent, ?_, riding⟩
    rw [population]
    change (world.population.get? id).map _ = _
    simp [found, older]
  refine ⟨vehicles, traffic', steps, ⟨?_, ?_, ⟨queue, vehicle, bare, boarded, ?_⟩, ?_, ?_⟩, ?_, ?_⟩
  · rw [roads]
    exact inbound
  · rw [roads]
    exact seeps
  · rw [roads, Roads.queue?_setQueue_self present, LinkQueue.lined_lined]
    rfl
  · obtain ⟨queue', first, second, bare', boarded₁, boarded₂, present'⟩ := coming
    refine ⟨queue', first, second, bare', boarded₁, boarded₂, ?_⟩
    rw [roads, Roads.queue?_setQueue present, if_neg (by decide)]
    exact present'
  · exact ⟨others (by simp [fillerIds]) rides.1, others (by simp [fillerIds]) rides.2.1,
      others (by simp [fillerIds]) rides.2.2⟩
  · rw [Vehicle.sum_pcu_of_boarded all, fillerIds, List.length_map, List.length_range]
  · intro next first
    generalize fillerIds squeeze.fillers = ids at all
    cases all with
    | nil => cases first
    | cons next' _ =>
        cases first
        rw [next'.exitTick, now, (bare.flows.lined _).smallTicks]
        exact Nat.one_lt_two

theorem Loaded.interval_ne_ok (loaded : squeeze.Loaded world) {interval : Interval Rat} :
    world.interval flowPermanent ≠ .ok interval := by
  intro simulated
  obtain ⟨⟨changed, departures, outcomes, midway, decisions, final⟩, follows, -⟩ :=
    World.interval_eq_ok.mp simulated
  obtain ⟨made, -, due, named, departed, decided, committed⟩ := follows
  dsimp only at made due named departed decided committed
  obtain rfl : world = changed :=
    Except.ok.inj ((World.applyChanges_of_none loaded.changes).symm.trans made)
  have now : (world.context flowPermanent).now = 1 := loaded.now
  obtain ⟨vehicles, traffic, steps, standing, sum, early⟩ := loaded.exists_departed now
  rw [loaded.modes] at departed committed
  have other : Traffic.departAll table (world.context flowPermanent) world.refilled
      (fillerIds squeeze.fillers) =
        .ok ((fillerIds squeeze.fillers).map fun id => (id, .departed), traffic) := by
    refine Traffic.departAll_eq_ok.mpr ⟨?_, _, ?_, steps⟩
    · rw [List.map_map]
      exact List.map_id _
    · simp [Happening.departure?]
  have same := Traffic.departAll_eq_ok.mpr ⟨due, departures, named, departed⟩
  rw [loaded.now, loaded.due, other] at same
  cases same
  obtain ⟨decisions', decided', orders⟩ := standing.orders now early sum
  rw [loaded.network, decided'] at decided
  cases decided
  rw [Course.orders, orders] at committed
  exact standing.not_steps sum committed

theorem exists_start (checked : dynamics.check table = .ok ())
    (squeeze : Squeeze table dynamics) : ∃ start, squeeze.setup.build = .ok start := by
  have opened : ∃ roads, Roads.ofNetwork squeeze.network dynamics table 1 = .ok roads :=
    ⟨_, Roads.ofNetwork_eq_ok.mpr ⟨checked, rfl⟩⟩
  obtain ⟨roads, opened⟩ := opened
  have configured : RunConfig.check (α := Rat) {} = .ok () := rfl
  simp only [SimSetup.build, setup, configured, opened, Except.mapError]
  exact ⟨_, rfl⟩

end Intervals

end Squeeze

/-- A state between two intervals of a run of some sensible setup on a table and its rules. -/
def Sim.Reachable {σ : Type} (sim : Sim Rat σ) (table : ModeTable Rat)
    (dynamics : Dynamics Rat) : Prop :=
  ∃ (setup : SimSetup Rat σ) (start : Sim Rat σ) (history : List (Interval Rat)),
    setup.table = table ∧ setup.dynamics = dynamics ∧ setup.Sensible ∧
      setup.build = .ok start ∧ Sim.Run start history sim

/-- In a squeeze the first step of the run succeeds and the second one fails. -/
theorem Squeeze.exists_failure {table : ModeTable Rat} {dynamics : Dynamics Rat}
    (squeeze : Squeeze table dynamics) (checked : dynamics.check table = .ok ()) :
    ∃ sim : Sim Rat Unit, sim.Reachable table dynamics ∧
      ∀ result, sim.step {} ≠ .ok result := by
  obtain ⟨start, built⟩ := squeeze.exists_start checked
  obtain ⟨interval, simulated, loaded⟩ := exists_loaded built start.flowPermanent
  obtain ⟨stop, sim, stepped⟩ := Sim.step_isOk simulated {}
  refine ⟨sim, ⟨squeeze.setup, start, _, rfl, rfl, squeeze.sensible, built,
    .step .start simulated stepped⟩, ?_⟩
  intro result failed
  obtain ⟨again, simulated', takes⟩ := Sim.step_eq_ok stepped
  cases simulated.symm.trans simulated'
  obtain ⟨last, simulated, -⟩ := Sim.step_eq_ok failed
  rw [takes.world] at simulated
  exact loaded.interval_ne_ok simulated

/-- A step of a run fails at most because a link is too full for a vehicle. Every step of every
run succeeds exactly where no mode that may seep is larger than one that may not. -/
theorem Sim.steps_succeed_iff_seepsNarrow {table : ModeTable Rat} {dynamics : Dynamics Rat}
    (checked : dynamics.check table = .ok ()) :
    (∀ {σ : Type} {sim : Sim Rat σ} {observer : Observer Rat σ}
        {stopped : Interrupted (RunError Rat) (Sim Rat σ)},
      sim.Reachable table dynamics → sim.step observer = .error stopped →
        ∃ link need free, stopped.cause = .road (.capacityExceeded link need free)) ∧
    ((∀ {σ : Type} {sim : Sim Rat σ} (observer : Observer Rat σ),
      sim.Reachable table dynamics → ∃ stop sim', sim.step observer = .ok (stop, sim')) ↔
        dynamics.SeepsNarrow table) := by
  constructor
  · intro σ sim observer stopped reachable failed
    obtain ⟨setup, start, history, -, -, sensible, built, run⟩ := reachable
    obtain ⟨full, cause, capacity | uncounted⟩ := run.isShortage_of_step sensible built failed
    swap
    · exact absurd uncounted full.not_uncounted_rat
    cases full with
    | capacityExceeded link need free => exact ⟨link, need, free, cause⟩
    | _ => cases capacity
  constructor
  · intro succeed
    by_contra wide
    obtain ⟨squeeze⟩ := Squeeze.exists_of_not_seepsNarrow checked wide
    obtain ⟨sim, reachable, fails⟩ := squeeze.exists_failure checked
    obtain ⟨stop, sim', stepped⟩ := succeed {} reachable
    exact fails _ stepped
  · intro narrow σ sim observer reachable
    obtain ⟨setup, start, history, rfl, rfl, sensible, built, run⟩ := reachable
    exact run.exists_step sensible built narrow observer

namespace Bottleneck

/-- The rules under which the vehicles of one mode may seep. -/
def letting (mode : String) : Dynamics Rat where
  seepage := some { modes := [mode], fraction := 1 }

theorem types_table {mode : ModeId} {type : VehicleType Rat}
    (found : table.get? mode = some type) :
    type = ⟨"wide", 2, 10⟩ ∨ type = ⟨"narrow", 1, 10⟩ := by
  have member := Array.mem_of_getElem? found
  simpa [table] using member

/-- It makes a difference which of the two modes may seep. -/
theorem steps_succeed_of_letting_narrow :
    (letting "narrow").check table = .ok () ∧ (letting "wide").check table = .ok () ∧
      (∀ {σ : Type} {sim : Sim Rat σ} (observer : Observer Rat σ),
        sim.Reachable table (letting "narrow") →
          ∃ stop sim', sim.step observer = .ok (stop, sim')) ∧
      ∃ (σ : Type) (sim : Sim Rat σ) (observer : Observer Rat σ),
        sim.Reachable table (letting "wide") ∧
          ∀ stop sim', sim.step observer ≠ .ok (stop, sim') := by
  have checked : (letting "narrow").check table = .ok () :=
    Attempt.toOption_eq_some.mp (by decide +kernel)
  have checked' : (letting "wide").check table = .ok () :=
    Attempt.toOption_eq_some.mp (by decide +kernel)
  refine ⟨checked, checked', (Sim.steps_succeed_iff_seepsNarrow checked).2.mpr ?_, ?_⟩
  · intro mode other type type' found found' seeps stays
    obtain ⟨seepage, again, given, same, named⟩ := seeps
    cases given
    cases found.symm.trans same
    rw [List.mem_singleton] at named
    obtain rfl | rfl := types_table found
    · exact absurd named (by decide)
    · obtain rfl | rfl := types_table found' <;> decide
  · by_contra succeed
    simp only [not_exists, not_and, not_forall, not_not] at succeed
    have narrow := (Sim.steps_succeed_iff_seepsNarrow checked').2.mp fun observer reachable =>
      succeed _ _ observer reachable
    have wider := @narrow wide Bottleneck.narrow ⟨"wide", 2, 10⟩ ⟨"narrow", 1, 10⟩ rfl rfl
      ⟨_, _, rfl, rfl, List.mem_singleton.mpr rfl⟩ (by
        intro seeps
        obtain ⟨seepage, again, given, same, named⟩ := seeps
        cases given
        cases same
        exact absurd (List.mem_singleton.mp named) (by decide))
    exact absurd wider (by decide)

/-- Three narrow vehicles fill the road to the exit. While one of them leaves, a wide one, which
had to seep when the node in the middle decided, takes its room, and the narrow one behind the
wide one finds none. -/
theorem step_fails_of_letting_wide :
    ∃ network population start sim history stopped, draft.build = .ok network ∧
      (crowd [(narrow, 0, [exit]), (narrow, 1, [exit]), (wide, 0, [entry, exit]),
        (narrow, 0, [entry, exit])]).build table = .ok population ∧
      (setup network population).Sensible ∧ (setup network population).build = .ok start ∧
      Sim.Run start history sim ∧ sim.step {} = .error stopped ∧
      stopped.cause = .road (.capacityExceeded exit 1 0) := by
  have ran : drive? draft [(narrow, 0, [exit]), (narrow, 1, [exit]), (wide, 0, [entry, exit]),
      (narrow, 0, [entry, exit])] setup 1 (fun network _ _ sim =>
        some (match sim.step {} with
          | .error ⟨.road (.capacityExceeded link need free), _⟩ => some (link, need, free)
          | .error ⟨.road (.notOutgoing ..), _⟩ | .error ⟨.road (.unknownLink ..), _⟩
          | .error ⟨.road (.vehicleMissing ..), _⟩ | .error ⟨.road (.noSuchLink _), _⟩
          | .error ⟨.road (.noSuchNode _), _⟩ | .error ⟨.road (.noSuchMode _), _⟩
          | .error ⟨.road (.agent _), _⟩ | .error ⟨.road (.config _), _⟩ => none
          | _ => none,
        (network.link? exit).isSome, (network.link? entry).isSome,
        network.isSuccessor? entry exit)) =
      some (some (exit, 1, 0), true, true, some true) := by decide +kernel
  obtain ⟨network, population, start, sim, history, connected, populated, built, -, run, seen⟩ :=
    exists_of_drive? ran
  simp only [Option.some.injEq, Prod.mk.injEq] at seen
  obtain ⟨failed, out, into, joined⟩ := seen
  have short (id : AgentId) : (Driver.fixed [exit]).Orderly network id :=
    Driver.orderly_fixed (fun link first => by cases first; exact out) (.singleton _)
  have long (id : AgentId) : (Driver.fixed [entry, exit]).Orderly network id :=
    Driver.orderly_fixed (fun link first => by cases first; exact into)
      (List.isChain_pair.mpr joined)
  have sensible : (setup network population).Sensible := by
    refine ⟨⟨_, connected⟩, ⟨_, crowd_drafted _, populated⟩, orderly_of_crowd populated ?_⟩
    simp only [List.forall_mem_cons, List.not_mem_nil, false_implies, implies_true, and_true]
    exact ⟨short, short, long, long⟩
  split at failed
  · rename_i stopped cause
    cases failed
    exact ⟨network, population, start, sim, _, _, connected, populated, sensible, built, run,
      cause, rfl⟩
  all_goals cases failed

end Bottleneck

end MixedTraffic

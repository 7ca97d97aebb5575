import MixedTraffic.Proofs.Run.Instruments
import MixedTraffic.Proofs.Run.Speed

namespace MixedTraffic

/-! Who can overtake whom, and on which links. -/

namespace Happening

/-- Nothing is heard of a happening before that a link is left. -/
theorem events_eq_cons (happening : Happening) (now : Tick) :
    happening.events now = [] ∨ ∃ event rest, happening.events now = event :: rest ∧
      ∀ other ∈ rest, other.kind ≠ .linkLeft := by
  cases happening <;> simp [events]

end Happening

namespace Passage

variable {α : Type} [Quantity α] {passage : Passage α} {first : Network α} {tickSecs : Nat}
  {link : LinkId} {done : List Happening} {happening : Happening} {traffic : Traffic α}
  {queue : LinkQueue α} {vehicle other : Vehicle α}

theorem Reaches.modes_eq (reaches : passage.Reaches done traffic) :
    traffic.population.modes = passage.world.population.modes := by
  have same := reaches.steps.preserves
    (fun traffic => traffic.population.modes = passage.course.changed.population.modes)
    (fun same step => (Population.modes_eq step.unbegun).trans same) rfl
  rw [same, passage.follows.revises.population]

section Leaving

variable (regular : passage.world.Regular first tickSecs) (sound : first.Sound)
  (reaches : passage.Reaches done traffic)
  (next : done ++ [happening] <+: passage.course.happenings)
  (leaves : happening.leaves? = some link) (present : traffic.roads.queue? link = some queue)
  (member : vehicle ∈ queue.vehicles) (own : vehicle.agent = happening.agent)
  (member' : other ∈ queue.vehicles)
include regular sound reaches next leaves present member own member'

/-- Whoever came onto a link before one that leaves it has been there since before the interval. -/
theorem Reaches.mem_fleet_of_seq_le (earlier : other.seq ≤ vehicle.seq) :
    (link, other) ∈ passage.world.roads.fleet := by
  obtain ⟨ready, -⟩ := reaches.exists_move regular sound next leaves present member own
  obtain ⟨old, found, ordered, becomes⟩ := reaches.becomes regular present
  have before := becomes.old_of_ready member ready
  have numbered := ordered.numbered vehicle before.1
  obtain ⟨known, -⟩ | newcomer := becomes.known other member'
  · obtain ⟨queue', present', same⟩ :=
      Roads.lineup_of_lineups (World.refilled_lineups passage.follows.changed) found
    have vehicles : old.vehicles = queue'.vehicles := congrArg Lineup.vehicles same
    exact (Roads.mem_fleet regular.placed.traffic.labelled).mpr
      ⟨queue', present', vehicles ▸ known⟩
  · exact absurd (newcomer.numbered.trans earlier) numbered.not_ge

/-- A vehicle that leaves a link before one that came earlier may seep, or the link allows passing
and it may leave sooner. -/
theorem Reaches.seeps_or_sooner (earlier : other.seq < vehicle.seq) :
    passage.world.roads.seeps vehicle.mode = true ∨
      queue.passing = true ∧ vehicle.exitTick < other.exitTick := by
  by_cases ahead : queue.Ahead other vehicle
  · obtain ⟨seeps, -⟩ :=
      reaches.seeps_of_leaves regular sound next leaves present member own member' ahead
    rw [Roads.seeps_eq_of_rules passage.rules_midway] at seeps
    exact .inl seeps
  · unfold LinkQueue.Ahead at ahead
    split at ahead
    next passing =>
      refine .inr ⟨passing, ?_⟩
      dsimp only [Tick] at *
      omega
    next => exact absurd earlier ahead

end Leaving

end Passage

/-- Who is taken to be overtaken is on the link, and came before the vehicle that leaves it. -/
theorem OvertakeCounter.Mirrors.exists_overtaken {α : Type} {counter : OvertakeCounter α}
    {traffic : Traffic α} {now : Tick} {heard : List Event} {queue : LinkQueue α} {event : Event}
    {mode other : ModeId} {line : List (AgentId × ModeId)}
    (mirrors : counter.Mirrors traffic now heard)
    (present : traffic.roads.queue? event.link = some queue)
    (here : counter.onLink[event.link.index]? = some line)
    (overtaken : other ∈ event.overtaken mode line) :
    event.kind = .linkLeft ∧ ∃ vehicle ∈ queue.vehicles, ∃ first ∈ queue.vehicles,
      vehicle.agent = event.agent ∧ counter.agentModes[first.agent.index]? = some other ∧
      first.seq < vehicle.seq ∧ first.entered ≤ vehicle.entered := by
  obtain ⟨left, front, own, back, entry, parts, named, ahead, rfl⟩ :=
    exists_split_of_mem_overtaken overtaken
  obtain ⟨again, arrivals, here', order, agents, -⟩ := mirrors.lined event.link queue present
  cases here.symm.trans here'
  have known := mirrors.ready.lined _ (Array.mem_of_getElem? here) entry
    (parts ▸ List.mem_append_left _ ahead)
  -- The arrivals are split where the line is, at the vehicle that leaves.
  rw [parts, List.map_append, List.map_cons, eq_comm, List.map_eq_append_iff] at agents
  obtain ⟨earlier, rest, rfl, earlierAgents, restAgents⟩ := agents
  obtain ⟨vehicle, later, rfl, vehicleAgent, -⟩ := List.map_eq_cons_iff.mp restAgents
  have among : entry.1 ∈ earlier.map (·.agent) := earlierAgents ▸ List.mem_map_of_mem ahead
  obtain ⟨first, member, firstAgent⟩ := List.mem_map.mp among
  have sorted := (List.pairwise_append.mp order.sorted).2.2 first member vehicle List.mem_cons_self
  refine ⟨left, vehicle, order.perm.mem_iff.mp (List.mem_append_right _ List.mem_cons_self), first,
    order.perm.mem_iff.mp (List.mem_append_left _ member), vehicleAgent.trans named, ?_, sorted⟩
  rw [firstAgent, known]

variable {α σ : Type} [Quantity α] {setup : SimSetup α σ} {start sim : Sim α σ}
  {history : List (Interval α)} {link : LinkId}

/-- That vehicles on a link may stand in another order than that in which they have come. -/
def SimSetup.PassesOn (setup : SimSetup α σ) (link : LinkId) : Prop :=
  setup.dynamics.passing = true ∧
    ∃ attributes, setup.network.link? link = some attributes ∧ attributes.allowsPassing = true

/-- That vehicles of one mode may overtake those of another on a link: they may seep, or pass and
are faster. -/
def SimSetup.MayOvertake (setup : SimSetup α σ) (link : LinkId) (mode other : ModeId) : Prop :=
  setup.dynamics.LetsSeep setup.table mode ∨ setup.PassesOn link ∧
    ∃ fast slow, setup.table.get? mode = some fast ∧ setup.table.get? other = some slow ∧
      slow.maxSpeed < fast.maxSpeed

theorem SimSetup.passesOn_of_site (built : setup.build = .ok start) {roads : Roads α}
    {queue : LinkQueue α} (sites : roads.sites = start.world.roads.sites)
    (present : roads.queue? link = some queue) (passing : queue.passing = true) :
    setup.PassesOn link := by
  obtain ⟨first, found, site⟩ := Roads.site_eq_of_sites sites present
  have known := Roads.queue?_of_ofNetwork (SimSetup.build_eq_ok built).opened link
  rw [found, eq_comm, Option.map_eq_some_iff] at known
  obtain ⟨attributes, known, rfl⟩ := known
  have same : queue.passing = (setup.dynamics.passing && attributes.allowsPassing) :=
    congrArg Site.passing site
  rw [same, Bool.and_eq_true] at passing
  exact ⟨passing.1, attributes, known, passing.2⟩

section Steady

variable {σ : Type} {setup : SimSetup Rat σ} {start sim : Sim Rat σ}
  {history : List (Interval Rat)} {roads : NetworkDraft Rat}
  {passage : Passage Rat} {done : List Happening} {happening : Happening} {traffic : Traffic Rat}
  (connected : roads.build = .ok setup.network) (built : setup.build = .ok start)
  (fresh : setup.population.Fresh) (steady : ∀ change ∈ setup.changes, change.freeSpeed = none)
  (run : Sim.Run start history sim) (reached : passage.world = sim.world)
  (reaches : passage.Reaches done traffic)
  (next : done ++ [happening] <+: passage.course.happenings)
include connected built fresh steady run reached reaches next

/-- Where no free speed changes, whoever leaves a link before one that came earlier may overtake
it, and both have been there since before the interval. -/
theorem Passage.Reaches.mayOvertake {link : LinkId} {queue : LinkQueue Rat}
    {vehicle other : Vehicle Rat}
    (leaves : happening.leaves? = some link) (present : traffic.roads.queue? link = some queue)
    (member : vehicle ∈ queue.vehicles) (own : vehicle.agent = happening.agent)
    (member' : other ∈ queue.vehicles)
    (earlier : other.seq < vehicle.seq ∧ other.entered ≤ vehicle.entered) :
    (link, vehicle) ∈ sim.world.roads.fleet ∧ (link, other) ∈ sim.world.roads.fleet ∧
      setup.MayOvertake link vehicle.mode other.mode := by
  have sound := Network.sound_of_build connected
  have regular : passage.world.Regular setup.network setup.config.tickSecs := by
    rw [reached]
    exact (World.Regular.of_build built fresh).run run.world
  -- Between intervals it is known of every vehicle on a link when it came and when it may leave.
  have here := reaches.mem_fleet_of_seq_le regular sound next leaves present member own member
    le_rfl
  have here' := reaches.mem_fleet_of_seq_le regular sound next leaves present member own member'
    earlier.1.le
  have moves := reaches.seeps_or_sooner regular sound next leaves present member own member'
    earlier.1
  have sites := (Enduring.sites start.world.roads).run rfl run.world
  rw [reached] at here here' moves
  rw [← reached] at sites
  refine ⟨here, here', ?_⟩
  obtain seeps | ⟨passing, sooner⟩ := moves
  · exact .inl ((run.seeps_iff built _).mp seeps)
  · have sites' := (Enduring.sites start.world.roads).steps
      ((Enduring.sites start.world.roads).refilled sites passage.follows.changed) reaches.steps
    exact .inr ⟨SimSetup.passesOn_of_site built sites' present passing,
      run.faster_of_sooner connected built fresh steady here here' earlier.2 sooner⟩

theorem Passage.Reaches.mayOvertake_of_overtaken {counter : OvertakeCounter Rat}
    {heard : List Event} (mirrors : counter.Mirrors traffic passage.tick heard) {event : Event}
    (listed : event ∈ happening.events passage.tick) {queue : LinkQueue Rat}
    (present : traffic.roads.queue? event.link = some queue) {mode : ModeId}
    (known : counter.agentModes[event.agent.index]? = some mode)
    {line : List (AgentId × ModeId)} (here : counter.onLink[event.link.index]? = some line)
    {other : ModeId} (overtaken : other ∈ event.overtaken mode line) :
    setup.MayOvertake event.link mode other := by
  have sound := Network.sound_of_build connected
  obtain ⟨left, vehicle, member, first, member', own, own', earlier⟩ :=
    mirrors.exists_overtaken present here overtaken
  obtain ⟨leaves, leaver⟩ :
      happening.leaves? = some event.link ∧ happening.agent = event.agent := by
    obtain ⟨time, kind, id, link⟩ := event
    subst left
    exact Happening.leaves?_of_mem_events listed
  obtain ⟨there, there', may⟩ := reaches.mayOvertake connected built fresh steady run reached next
    leaves present member (own.trans leaver.symm) member' earlier
  have modes : counter.agentModes = setup.population.modes := by
    rw [mirrors.modes, reaches.modes_eq, reached, run.modes_eq built]
  have mode_eq := run.manned built fresh sound there
  have other_eq := run.manned built fresh sound there'
  rw [own, ← modes, known, Option.some.injEq] at mode_eq
  rw [← modes, own', Option.some.injEq] at other_eq
  rw [mode_eq, other_eq]
  exact may

theorem Passage.Reaches.explained_step {counter : OvertakeCounter Rat} {heard : List Event}
    (mirrors : counter.Mirrors traffic passage.tick heard)
    (explained : counter.Explained setup.MayOvertake) {traffic' : Traffic Rat}
    (step : Traffic.Step passage.course.changed.table
      (passage.course.changed.context passage.flowPermanent) traffic happening traffic') :
    ((happening.events passage.tick).foldl (fun counter event => counter.hear event)
      counter).Explained setup.MayOvertake := by
  obtain nothing | ⟨event, rest, events, stay⟩ := happening.events_eq_cons passage.tick
  · rw [nothing]
    exact explained
  · have listed : event ∈ happening.events passage.tick := events ▸ List.mem_cons_self
    rw [events, List.foldl_cons]
    -- Only by the first event of a happening can somebody have left a link.
    apply OvertakeCounter.Explained.foldl_of_ne ?_ stay
    by_cases left : event.kind = .linkLeft
    · have now := passage.context_now
      obtain ⟨mode, known⟩ := (now ▸ mirrors).exists_mode step
      obtain ⟨queue, present⟩ :=
        Option.isSome_iff_exists.mp (step.isSome_of_mem_events (now ▸ listed))
      rw [now] at known
      obtain ⟨line, -, here, -⟩ := mirrors.lined _ queue present
      refine explained.counts (mirrors.ready.counts_hear (known event listed) here) ?_
      intro other overtaken
      exact reaches.mayOvertake_of_overtaken connected built fresh steady run reached next mirrors
        listed present (known event listed) here overtaken
    · exact explained.hear_of_ne left

end Steady

section Attended

variable {σ : Type} {setup : SimSetup Rat σ} {start sim : Sim Rat σ}
  {history : List (Interval Rat)} {roads : NetworkDraft Rat} {read : σ → OvertakeCounter Rat}
  {count : Nat} {measured : Option Rat} (connected : roads.build = .ok setup.network)
  (built : setup.build = .ok start) (fresh : setup.population.Fresh)
  (steady : ∀ change ∈ setup.changes, change.freeSpeed = none)
include connected built fresh steady

theorem Passage.explained {passage : Passage Rat} {counter : OvertakeCounter Rat}
    {heard : List Event} (run : Sim.Run start history sim) (reached : passage.world = sim.world)
    (mirrors : counter.Mirrors
      { roads := passage.world.roads, population := passage.world.population } passage.tick heard)
    (explained : counter.Explained setup.MayOvertake) :
    (passage.interval.events.toList.foldl (fun counter event => counter.hear event)
      counter).Explained setup.MayOvertake := by
  have regular : passage.world.Regular setup.network setup.config.tickSecs := by
    rw [reached]
    exact (World.Regular.of_build built fresh).run run.world
  rw [passage.events_eq]
  refine passage.reaches_final.accumulates (fun done _ =>
    ((done.flatMap (·.events passage.tick)).foldl (fun counter event => counter.hear event)
      counter).Explained setup.MayOvertake) ?_ explained
  intro done happening before after reaches next earlier step
  rw [List.flatMap_append, List.flatMap_singleton, List.foldl_append]
  exact reaches.explained_step connected built fresh steady run reached next
    (mirrors.reaches regular reaches) earlier step

/-- A counter of overtakes that hears of all events of a run counts no others than may be. -/
theorem Sim.Attended.explained (counted : setup.HasCounter read count measured)
    (attended : Sim.Attended read start history sim) :
    (read sim.bus.memory).Explained setup.MayOvertake := by
  induction attended with
  | start =>
      rw [(SimSetup.watched_of_build built).1, counted.new]
      exact OvertakeCounter.explained_new ..
  | @step history sim sim' observer interval stop before spares simulated stepped ih =>
      obtain ⟨passage, reached, -, rfl⟩ := World.exists_passage simulated
      have mirrors := before.mirrors built fresh counted
      have later := Sim.Attended.step before spares simulated stepped
      rw [later.memory_eq built counted, heard_append, heard_singleton, List.foldl_append,
        ← before.memory_eq built counted]
      rw [← reached] at mirrors
      exact passage.explained connected built fresh steady before.run reached mirrors ih
  | ended _ _ memory ih => exact memory ▸ ih

end Attended

/-- Where no free speed changes, no mode is counted to overtake another but one that may seep, or
that is faster where passing is on. Where nobody seeps, nobody is counted to overtake on a link
that is not for passing, nor anywhere if passing is off. -/
theorem Sim.Attended.able_of_overtakes {σ : Type} {setup : SimSetup Rat σ} {start sim : Sim Rat σ}
    {history : List (Interval Rat)} {read : σ → OvertakeCounter Rat} {count : Nat}
    {measured : Option Rat} {roads : NetworkDraft Rat} {draft : PopulationDraft}
    {table : ModeTable Rat}
    (connected : roads.build = .ok setup.network) (drafted : draft.Drafted)
    (populated : draft.build table = .ok setup.population) (built : setup.build = .ok start)
    (steady : ∀ change ∈ setup.changes, change.freeSpeed = none)
    (counted : setup.HasCounter read count measured)
    (attended : Sim.Attended read start history sim) :
    (∀ mode other, 0 < (read sim.bus.memory).pair mode other →
      setup.dynamics.LetsSeep setup.table mode ∨
        setup.dynamics.passing = true ∧ ∃ fast slow, setup.table.get? mode = some fast ∧
          setup.table.get? other = some slow ∧ slow.maxSpeed < fast.maxSpeed) ∧
    ((∀ mode, ¬setup.dynamics.LetsSeep setup.table mode) →
      (∀ link, ¬setup.PassesOn link → (read sim.bus.memory).countOn link = 0) ∧
      (setup.dynamics.passing = false → (read sim.bus.memory).total = 0)) := by
  have fresh := drafted.fresh_of_build populated
  have explained := attended.explained connected built fresh steady counted
  refine ⟨fun mode other overtaken => ?_, fun strict => ⟨fun link apart => ?_, fun off => ?_⟩⟩
  · obtain ⟨link, seeps | ⟨⟨passing, -⟩, faster⟩⟩ := explained.pair mode other overtaken
    · exact .inl seeps
    · exact .inr ⟨passing, faster⟩
  · by_contra overtaken
    obtain ⟨mode, other, seeps | ⟨passes, -⟩⟩ :=
      explained.countOn link (Nat.pos_of_ne_zero overtaken)
    · exact strict mode seeps
    · exact apart passes
  · by_contra overtaken
    obtain ⟨link, mode, other, seeps | ⟨⟨passing, -⟩, -⟩⟩ :=
      explained.total (Nat.pos_of_ne_zero overtaken)
    · exact strict mode seeps
    · exact Bool.false_ne_true (off.symm.trans passing)

/-- The second wide vehicle seeps past a narrow one that the exit has no room for. -/
theorem Bottleneck.able_of_overtakes_of_four :
    ∃ network population start sim, draft.build = .ok network ∧
      (crowd [(wide, 0, [entry, exit]), (narrow, 0, [entry, exit]), (narrow, 0, [entry, exit]),
        (wide, 0, [entry, exit])]).build table = .ok population ∧
      (watched network population).build = .ok start ∧ start.runTicks {} 2 = .ok sim ∧
      sim.bus.memory.pair wide narrow = 1 ∧ sim.bus.memory.pair narrow wide = 0 ∧
      sim.bus.memory.countOn entry = 1 ∧ sim.bus.memory.countOn exit = 0 ∧
      (watched network population).dynamics.passing = false ∧
      (watched network population).dynamics.LetsSeep (watched network population).table wide := by
  have ran : drive? draft [(wide, 0, [entry, exit]), (narrow, 0, [entry, exit]),
      (narrow, 0, [entry, exit]), (wide, 0, [entry, exit])] watched 2 (fun _ population _ sim =>
        some (population.modes, sim.bus.memory.pair wide narrow,
          sim.bus.memory.pair narrow wide, sim.bus.memory.countOn entry,
          sim.bus.memory.countOn exit)) =
      some (#[wide, narrow, narrow, wide], 1, 0, 1, 0) := by decide +kernel
  obtain ⟨network, population, start, sim, _, connected, populated, built, ticked, -, seen⟩ :=
    exists_of_drive? ran
  simp only [Option.some.injEq, Prod.mk.injEq] at seen
  obtain ⟨modes, past, back, onEntry, onExit⟩ := seen
  obtain ⟨history, -, attended⟩ :=
    Sim.Attended.start.runTicks (Observer.spares_silent id) ticked
  have listed : ∀ mode ∈ population.modes, mode.index < 2 := by
    rw [modes]
    decide
  obtain ⟨able, -⟩ := Sim.Attended.able_of_overtakes connected (crowd_drafted _) populated built
    (List.forall_mem_nil _) (watched_hasCounter listed) attended
  have overtaken : 0 < sim.bus.memory.pair wide narrow := past ▸ Nat.one_pos
  have off : (watched network population).dynamics.passing = false := rfl
  refine ⟨network, population, start, sim, connected, populated, built, ticked, past, back,
    onEntry, onExit, off, ?_⟩
  obtain seeps | ⟨passing, -⟩ := able wide narrow overtaken
  · exact seeps
  · exact absurd (off.symm.trans passing) Bool.false_ne_true

end MixedTraffic

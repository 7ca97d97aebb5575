import MixedTraffic.Proofs.Lists
import MixedTraffic.Proofs.Road.Storage
import MixedTraffic.Proofs.Run.Punctuality
import MixedTraffic.Proofs.Run.Stream

namespace MixedTraffic

/-! In which order agents get onto the road: those for whom any room is as good as for each
other, in the order in which they are due. -/

namespace Driver

/-- The link on which a driver begins every trip, if there is such a link. -/
def start? : Driver → Option LinkId
  | fixed route => route.head?
  | circling ring => some ring.home
  | external _ => none

theorem firstLink?_of_start? {driver : Driver} {link : LinkId} (starts : driver.start? = some link)
    (id : AgentId) (context : RouteContext) : driver.firstLink? id context = some link := by
  cases driver with
  | fixed | circling => exact starts
  | external => cases starts

end Driver

namespace Population

/-- The mode of an agent and the link on which it begins its trip whenever it departs. -/
def start? (population : Population) (id : AgentId) : Option (ModeId × LinkId) :=
  (population.get? id).bind fun agent => agent.driver.start?.map (agent.mode, ·)

/-- That two agents need room of the same kind on the same link. -/
def Alike (population : Population) (id other : AgentId) : Prop :=
  ∃ start, population.start? id = some start ∧ population.start? other = some start

theorem start?_eq_some {population : Population} {id : AgentId} {start : ModeId × LinkId} :
    population.start? id = some start ↔
      ∃ agent, population.get? id = some agent ∧ agent.mode = start.1 ∧
        agent.driver.start? = some start.2 := by
  obtain ⟨mode, link⟩ := start
  simp only [start?, Option.bind_eq_some_iff, Option.map_eq_some_iff, Prod.mk.injEq]
  grind

theorem start?_of_unbegun {population population' : Population} {id : AgentId}
    (same : (population'.get? id).map Agent.unbegun = (population.get? id).map Agent.unbegun) :
    population'.start? id = population.start? id := by
  have begins (population : Population) : population.start? id =
      ((population.get? id).map fun agent => agent.driver.start?.map (agent.mode, ·)).join := by
    rw [start?]
    cases population.get? id <;> rfl
  rw [begins, begins, Agent.map_of_unbegun same _ fun _ => rfl]

end Population

/-- That there is no more room once an amount is taken up, if there has been none before. -/
def Quantity.Depletes (α : Type) [Quantity α] : Prop :=
  ∀ storage occupied more pcu : α, isPositive more = true →
    ¬pcu ≤ storage - occupied + slack → ¬pcu ≤ storage - (occupied + more) + slack

theorem Quantity.depletes_rat : Quantity.Depletes Rat := by
  intro storage occupied more pcu positive full
  have amount := pos_of_isPositive positive
  rw [not_le] at full ⊢
  linarith

variable {α : Type} [Quantity α]

theorem LinkQueue.full_of_holding (depletes : Quantity.Depletes α) {queue : LinkQueue α}
    {vehicle : Vehicle α} (positive : Quantity.isPositive vehicle.pcu = true) {pcu : α}
    {maySeep : Bool} (full : queue.room.take? pcu maySeep = none) :
    (queue.holding vehicle).room.take? pcu maySeep = none := by
  obtain ⟨regular, seepage⟩ := Room.take?_eq_none.mp full
  rw [Room.take?_eq_none]
  cases seeping : vehicle.seeping with
  | false =>
      rw [holding, room, seeping]
      exact ⟨depletes _ _ _ _ positive regular, seepage⟩
  | true =>
      rw [holding, room, seeping]
      exact ⟨regular, fun may => depletes _ _ _ _ positive (seepage may)⟩

namespace Traffic

def Full (table : ModeTable α) (traffic : Traffic α) (start : ModeId × LinkId) : Prop :=
  ∃ queue type, traffic.roads.queue? start.2 = some queue ∧ table.get? start.1 = some type ∧
    queue.room.take? type.pcu (traffic.roads.seeps start.1) = none

variable {table : ModeTable α} {context : RouteContext} {traffic traffic' : Traffic α}
  {happening : Happening} {happenings : List Happening} {start : ModeId × LinkId}
  {id : AgentId} {link : LinkId}

theorem Full.step (depletes : Quantity.Depletes α) (full : Full table traffic start)
    (departs : happening.departure?.isSome)
    (step : Step table context traffic happening traffic') : Full table traffic' start := by
  cases step with
  | skipped | turnedAway | gaveUp => exact full
  | transferred | arrived | removed | heldUp => cases departs
  | @departed id link agent _ _ queue vehicle seeping _ _ _ _ _ present built =>
      obtain ⟨old, type, there, listed, closed⟩ := full
      by_cases here : start.2 = link
      · subst here
        cases present.symm.trans there
        obtain ⟨_, known, rfl⟩ := Vehicle.new?_eq_some.mp built
        refine ⟨_, type, Roads.queue?_setQueue_self present _, listed, ?_⟩
        exact LinkQueue.full_of_holding depletes (ModeTable.isPositive known).1 closed
      · refine ⟨old, type, ?_, listed, closed⟩
        exact (Roads.queue?_setQueue present _ _).trans ((if_neg here).trans there)

theorem Step.full_of_turnedAway (step : Step table context traffic (.turnedAway id link) traffic')
    (starts : traffic.population.start? id = some start) : Full table traffic' start := by
  obtain ⟨agent, found, mode, first⟩ := Population.start?_eq_some.mp starts
  cases step with
  | turnedAway found' _ first' _ present built full =>
      cases found.symm.trans found'
      cases (Driver.firstLink?_of_start? first id context).symm.trans first'
      obtain ⟨type, listed, rfl⟩ := Vehicle.new?_eq_some.mp built
      exact ⟨_, type, present, mode ▸ listed, mode ▸ full⟩

theorem Step.not_full_of_departed (step : Step table context traffic (.departed id link) traffic')
    (starts : traffic.population.start? id = some start) : ¬Full table traffic start := by
  obtain ⟨agent, found, mode, first⟩ := Population.start?_eq_some.mp starts
  rintro ⟨queue, type, there, listed, closed⟩
  cases step with
  | departed found' _ first' _ present built taken =>
      cases found.symm.trans found'
      cases (Driver.firstLink?_of_start? first id context).symm.trans first'
      cases present.symm.trans there
      obtain ⟨type', listed', rfl⟩ := Vehicle.new?_eq_some.mp built
      rw [mode] at listed' taken
      cases listed.symm.trans listed'
      cases closed.symm.trans taken

theorem Full.no_departure (depletes : Quantity.Depletes α) (full : Full table traffic start)
    (departing : ∀ happening ∈ happenings, happening.departure?.isSome)
    (steps : Steps table context traffic happenings traffic')
    (member : .departed id link ∈ happenings) : traffic.population.start? id ≠ some start := by
  induction steps with
  | nil => cases member
  | cons step steps ih =>
      obtain ⟨departs, departing⟩ := List.forall_mem_cons.mp departing
      obtain rfl | later := List.mem_cons.mp member
      · exact fun starts => step.not_full_of_departed starts full
      · rw [← Population.start?_of_unbegun (step.unbegun id)]
        exact ih (full.step depletes departs step) departing later

end Traffic

/-- That an agent finds no room before a like one departs in the same interval. -/
def Happening.Bypasses (population : Population) (refused admitted : Happening) : Prop :=
  ∃ id link other target, refused = .turnedAway id link ∧ admitted = .departed other target ∧
    population.Alike id other

namespace Traffic

variable {table : ModeTable α} {context : RouteContext} {traffic traffic' : Traffic α}
  {happenings : List Happening} {population : Population}

theorem Steps.not_bypasses (depletes : Quantity.Depletes α)
    (departing : ∀ happening ∈ happenings, happening.departure?.isSome)
    (same : ∀ id, traffic.population.start? id = population.start? id)
    (steps : Steps table context traffic happenings traffic') :
    happenings.Pairwise fun first second => ¬first.Bypasses population second := by
  induction steps with
  | nil => exact .nil
  | @cons _ middle _ _ _ step steps ih =>
      have others := (List.forall_mem_cons.mp departing).2
      have kept (id : AgentId) : middle.population.start? id = population.start? id :=
        (Population.start?_of_unbegun (step.unbegun id)).trans (same id)
      refine List.pairwise_cons.mpr ⟨fun later member bypasses => ?_, ih others kept⟩
      obtain ⟨id, link, other, target, rfl, rfl, start, starts, starts'⟩ := bypasses
      have full := step.full_of_turnedAway ((same id).trans starts)
      exact full.no_departure depletes others steps member ((kept other).trans starts')

end Traffic

def admissions (events : List Event) : List AgentId :=
  (events.filter (·.kind = .departed)).map (·.agent)

theorem admissions_append (first second : List Event) :
    admissions (first ++ second) = admissions first ++ admissions second := by
  rw [admissions, List.filter_append, List.map_append]
  rfl

namespace Happening

def admits : Happening → Bool
  | departed .. => true
  | _ => false

theorem eq_of_stuck {now : Tick} {happening : Happening} {event : Event}
    (member : event ∈ happening.events now) (stuck : event.kind = .stuck) :
    event.time = now ∧
      (happening = gaveUp event.agent event.link ∨ happening = removed event.agent event.link) := by
  cases happening with
  | gaveUp =>
      cases List.mem_singleton.mp member
      exact ⟨rfl, .inl rfl⟩
  | removed =>
      cases List.mem_singleton.mp member
      exact ⟨rfl, .inr rfl⟩
  | departed | transferred | arrived =>
      rw [events, List.mem_pair] at member
      obtain rfl | rfl := member <;> cases stuck
  | skipped | turnedAway | heldUp => cases member

theorem admissions_of_events (now : Tick) (happenings : List Happening) :
    admissions (happenings.flatMap (·.events now)) = (happenings.filter admits).map agent := by
  induction happenings with
  | nil => rfl
  | cons happening rest ih =>
      rw [List.flatMap_cons, admissions_append, ih]
      cases happening <;> rfl

end Happening

namespace Passage

variable (passage : Passage α)

def admitted : List AgentId := (passage.course.departures.filter (·.admits)).map (·.agent)

theorem admissions_eq : admissions passage.interval.events.toList = passage.admitted := by
  have nobody : passage.course.orders.filter (·.admits) = [] := by
    refine List.filter_eq_nil_iff.mpr fun happening ordered admits => ?_
    obtain ⟨decision, -, ordered⟩ := List.mem_flatMap.mp ordered
    have undue := Happening.departure?_of_mem_orders ordered
    cases happening with
    | departed => cases undue
    | skipped | turnedAway | gaveUp | transferred | arrived | removed | heldUp => cases admits
  rw [interval, passage.follows.events, Happening.admissions_of_events, Course.happenings,
    List.filter_append, nobody, List.append_nil]
  rfl

theorem admitted_sublist : passage.admitted.Sublist passage.tried := by
  rw [← passage.map_agent_departures]
  exact List.filter_sublist.map _

theorem exists_departed {id : AgentId} (member : id ∈ passage.admitted) :
    ∃ link, .departed id link ∈ passage.course.departures := by
  obtain ⟨happening, listed, rfl⟩ := List.mem_map.mp member
  obtain ⟨listed, admits⟩ := List.mem_filter.mp listed
  cases happening with
  | departed id link => exact ⟨link, listed⟩
  | skipped | turnedAway | gaveUp | transferred | arrived | removed | heldUp => cases admits

variable {passage} {population : Population} {due : AgentId → Tick} {id other : AgentId}

/-- Whoever departs in an interval was due before any like agent that does not. -/
theorem before_of_admitted (depletes : Quantity.Depletes α)
    (punctual : passage.world.Punctual due)
    (same : ∀ id, passage.world.population.start? id = population.start? id)
    (admitted : id ∈ passage.admitted) (alike : population.Alike id other)
    (left : other ∈ passage.interval.next.departures.entries) : Calendar.Before due id other := by
  rw [passage.departures_next, (Calendar.requeue_perm ..).mem_iff] at left
  obtain again | later := List.mem_append.mp left
  · obtain ⟨target, departed⟩ := passage.exists_departed admitted
    obtain ⟨link, turned⟩ := passage.exists_turnedAway again
    have departing : ∀ happening ∈ passage.course.departures, happening.departure?.isSome :=
      fun happening member => Option.isSome_iff_ne_none.mpr
        (Happening.departure?_ne_none passage.follows.named happening member)
    have begins (id : AgentId) :
        passage.course.changed.refilled.population.start? id = population.start? id := by
      change passage.course.changed.population.start? id = _
      rw [passage.follows.revises.population, same]
    have ordered := pairwise_tried punctual
    rw [← passage.map_agent_departures, List.pairwise_map] at ordered
    have both := ordered.and (passage.follows.departed.not_bypasses depletes departing begins)
    obtain ⟨before, -⟩ | ⟨-, bypasses⟩ := rel_or_rel_of_pairwise both departed turned nofun
    · exact before
    · obtain ⟨start, starts, starts'⟩ := alike
      exact absurd ⟨other, link, id, target, rfl, rfl, start, starts', starts⟩ bypasses
  · have ordered := punctual.keeps.pairwise
    rw [← Calendar.drain_append _ passage.tick, ← passage.tried_eq_drain] at ordered
    exact (List.pairwise_append.mp ordered).2.2 id (passage.admitted_sublist.subset admitted)
      other later

end Passage

/-- That like agents have departed in the order in which they were due, and before any that has
yet to depart. -/
structure World.Defers (world : World α) (population : Population) (due : AgentId → Tick)
    (admitted : List AgentId) : Prop where
  ordered : admitted.Pairwise fun id other =>
    population.Alike id other → Calendar.Before due id other
  ahead : ∀ id ∈ admitted, ∀ other ∈ world.departures.entries,
    population.Alike id other → Calendar.Before due id other

theorem Passage.mem_entries_of_next {passage : Passage α} {id : AgentId}
    (left : id ∈ passage.interval.next.departures.entries) :
    id ∈ passage.world.departures.entries := by
  rw [passage.departures_next, (Calendar.requeue_perm ..).mem_iff] at left
  rw [← Calendar.drain_append _ passage.tick, ← passage.tried_eq_drain]
  have again : ((passage.course.outcomes.filter (·.2 = .turnedAway)).map (·.1)).Sublist
      passage.tried := List.filter_sublist.map _
  exact List.mem_append.mpr ((List.mem_append.mp left).imp_left (again.subset ·))

namespace World.Defers

variable {population : Population} {due : AgentId → Tick} {admitted : List AgentId}

theorem next (depletes : Quantity.Depletes α) {passage : Passage α}
    (punctual : passage.world.Punctual due)
    (same : ∀ id, passage.world.population.start? id = population.start? id)
    (defers : passage.world.Defers population due admitted) :
    passage.interval.next.Defers population due (admitted ++ passage.admitted) where
  ordered := by
    refine List.pairwise_append.mpr ⟨defers.ordered, ?_, fun id member other new =>
      defers.ahead id member other ?_⟩
    · have ordered := (Passage.pairwise_tried punctual).sublist passage.admitted_sublist
      refine ordered.imp ?_
      intro id other before _
      exact before
    · exact ((Passage.mem_tried punctual).mp (passage.admitted_sublist.subset new)).1
  ahead id member other left alike := by
    obtain old | new := List.mem_append.mp member
    · exact defers.ahead id old other (Passage.mem_entries_of_next left) alike
    · exact Passage.before_of_admitted depletes punctual same new alike left

theorem run (depletes : Quantity.Depletes α) {start world : World α}
    {history : List (Interval α)} (placed : start.Placed) (punctual : start.Punctual due)
    (run : World.Run start history world) :
    world.Defers start.population due (admissions (heard history)) := by
  induction run with
  | start => exact ⟨.nil, List.forall_mem_nil _⟩
  | step before simulated ih =>
      obtain ⟨passage, rfl, rfl, rfl⟩ := World.exists_passage simulated
      rw [heard_append, heard_singleton, admissions_append, passage.admissions_eq]
      exact ih.next depletes (punctual.run placed before) fun id =>
        Population.start?_of_unbegun (before.unbegun id)

end World.Defers

namespace Sim.Run

variable {σ : Type} {setup : SimSetup α σ} {start sim : Sim α σ} {history : List (Interval α)}

/-- Who gets stuck without ever having entered a link does so when the limit is reached. -/
theorem time_of_refusal (built : setup.build = .ok start) (fresh : setup.population.Fresh)
    (run : Sim.Run start history sim) {event : Event} (member : event ∈ heard history)
    (stuck : event.kind = .stuck) (never : boarded (heard history) event.agent = false) :
    ∃ limit, start.world.roads.stuckTicks = some limit ∧
      event.time = setup.population.dueAt setup.config.clock event.agent + limit := by
  obtain ⟨passages, passes, rfl⟩ := World.Passes.of_run run.world
  have placed := World.Placed.of_build built fresh
  obtain ⟨journeys, recorded, settles⟩ :=
    passes.exists_settles placed (Recorded.of_build built fresh)
  have discerns := settles.discerns recorded.own
  rw [World.Passes.heard_eq] at member
  obtain ⟨passage, listed, member⟩ := List.mem_flatMap.mp member
  obtain ⟨happening, within, member⟩ := List.mem_flatMap.mp member
  have among : happening ∈ World.Passes.happenings passages :=
    List.mem_flatMap.mpr ⟨passage, listed, within⟩
  obtain ⟨time, rfl | rfl⟩ := Happening.eq_of_stuck member stuck
  · rw [time]
    exact passes.tick_of_gaveUp placed (World.Punctual.of_build built fresh) listed within
  · cases never.symm.trans (discerns.removed _ _ among)

/-- Who is overdue by the limit has got onto the road or ended its trip. -/
theorem settled_of_overdue (built : setup.build = .ok start) (fresh : setup.population.Fresh)
    (run : Sim.Run start history sim) {limit : Nat}
    (limited : start.world.roads.stuckTicks = some limit) {id : AgentId} {agent : Agent}
    (found : sim.world.population.get? id = some agent)
    (overdue : setup.population.dueAt setup.config.clock id + limit < sim.now) :
    boarded (heard history) id = true ∨ agent.trip.outcome = some .skipped ∨
      ∃ event ∈ heard history, event.agent = id ∧ event.kind = .stuck := by
  have placed := World.Placed.of_build built fresh
  have punctual := (World.Punctual.of_build built fresh).run placed run.world
  have rules := (Enduring.rules start.world.roads).run rfl run.world
  rw [← Roads.stuckTicks_eq_of_rules rules] at limited
  obtain ⟨journeys, recorded⟩ :=
    Recorded.run run.world placed (Recorded.of_build built fresh)
  have own := recorded.own id
  have fits := recorded.fits found
  have heard_of {event : Event} (member : event ∈ (journeys id).events id) :
      event ∈ heard history ∧ event.agent = id := by
    rw [← own] at member
    exact (List.mem_filter.mp member).imp_right of_decide_eq_true
  cases journey : journeys id with
  | unheard =>
      rw [journey] at fits
      obtain pending | skipped := fits
      · have listed := (placed.run run.world).mem_entries_of_isPending found pending
        exact absurd overdue (not_lt.mpr (punctual.patient limit limited id listed))
      · exact .inr (.inl (congrArg Trip.outcome skipped))
  | refused link time =>
      rw [journey] at heard_of
      obtain ⟨member, agent⟩ := heard_of List.mem_cons_self
      exact .inr (.inr ⟨_, member, agent, rfl⟩)
  | along first later ending =>
      rw [journey] at heard_of
      obtain ⟨member, agent⟩ := heard_of (List.mem_cons_of_mem _ List.mem_cons_self)
      exact .inl (List.any_eq_true.mpr ⟨_, member, decide_eq_true ⟨rfl, agent⟩⟩)

end Sim.Run

/-- In each interval, those who try to depart are all who are due and have yet to depart, in the
order in which they are due. Nobody waits for longer than the limit allows, and like agents
depart in their order. -/
theorem Sim.Run.departs_in_order {σ : Type} {setup : SimSetup α σ} {start sim : Sim α σ}
    {history : List (Interval α)} {draft : PopulationDraft} {table : ModeTable α}
    (drafted : draft.Drafted) (populated : draft.build table = .ok setup.population)
    (built : setup.build = .ok start) (run : Sim.Run start history sim) :
    (∀ passage : Passage α, passage.world = sim.world →
      passage.tried.Pairwise
          (Calendar.Before (setup.population.dueAt setup.config.clock)) ∧
        ∀ id, id ∈ passage.tried ↔ ∃ agent, sim.world.population.get? id = some agent ∧
          agent.trip.isFinished = false ∧ id ∉ sim.world.roads.riders ∧
          setup.config.clock.tickAtOrAfter agent.departureSecs ≤ sim.now) ∧
    (∀ event ∈ heard history, event.kind = .stuck →
      boarded (heard history) event.agent = false →
        ∃ limit, setup.dynamics.stuckTicks setup.config.tickSecs = some limit ∧
          event.time = setup.population.dueAt setup.config.clock event.agent + limit) ∧
    (∀ limit, setup.dynamics.stuckTicks setup.config.tickSecs = some limit →
      ∀ id agent, sim.world.population.get? id = some agent →
        setup.config.clock.tickAtOrAfter agent.departureSecs + limit < sim.now →
          boarded (heard history) id = true ∨ agent.trip.outcome = some .skipped ∨
            ∃ event ∈ heard history, event.agent = id ∧ event.kind = .stuck) ∧
    (Quantity.Depletes α → (admissions (heard history)).Pairwise fun id other =>
      setup.population.Alike id other →
        Calendar.Before (setup.population.dueAt setup.config.clock) id other) := by
  have fresh := drafted.fresh_of_build populated
  have starts := SimSetup.build_eq_ok built
  have placed := World.Placed.of_build built fresh
  have punctual := World.Punctual.of_build built fresh
  have population : start.world.population = setup.population := by
    obtain ⟨_, -, world⟩ := starts.world
    rw [world]
  have limits : start.world.roads.stuckTicks =
      setup.dynamics.stuckTicks setup.config.tickSecs := by
    rw [(Roads.ofNetwork_eq_ok.mp starts.opened).2]
  have dueAt {id : AgentId} {agent : Agent} (found : sim.world.population.get? id = some agent) :
      setup.population.dueAt setup.config.clock id =
        setup.config.clock.tickAtOrAfter agent.departureSecs := by
    obtain ⟨old, known, -, -, departs⟩ :=
      Population.exists_of_unbegun found (run.world.unbegun id)
    rw [population] at known
    rw [Population.dueAt, known, Option.elim_some, departs]
  refine ⟨fun passage reached => ?_, fun event member stuck never => ?_,
    fun limit limited id agent found overdue => ?_, fun depletes => ?_⟩
  · have later := placed.run run.world
    have punctual := punctual.run placed run.world
    have now : passage.tick = sim.now := congrArg (·.clock.now) reached
    rw [← reached] at later punctual
    refine ⟨passage.pairwise_tried punctual, fun id => ?_⟩
    rw [passage.mem_tried punctual, now]
    constructor
    · rintro ⟨listed, due⟩
      obtain ⟨agent, found⟩ := Option.isSome_iff_exists.mp (later.traffic.known (.inl listed))
      obtain ⟨unfinished, absent⟩ := (later.mem_entries_iff found).mp listed
      rw [reached] at found absent
      exact ⟨agent, found, unfinished, absent, dueAt found ▸ due⟩
    · rintro ⟨agent, found, unfinished, absent, due⟩
      rw [← dueAt found] at due
      rw [← reached] at found absent
      exact ⟨(later.mem_entries_iff found).mpr ⟨unfinished, absent⟩, due⟩
  · rw [← limits]
    exact run.time_of_refusal built fresh member stuck never
  · rw [← limits] at limited
    rw [← dueAt found] at overdue
    exact run.settled_of_overdue built fresh limited found overdue
  · rw [← population]
    exact (World.Defers.run depletes placed (population ▸ punctual) run.world).ordered

/-- The last of two wide vehicles gives up after one interval, and of two narrow ones the one
that is due earlier departs earlier. -/
theorem Bottleneck.departs_in_order_of_four :
    ∃ network population start sim history sim' history', ∃ passage : Passage Rat,
      draft.build = .ok network ∧
      (crowd [(narrow, 1, [exit]), (narrow, 0, [exit]), (wide, 0, [exit]),
        (wide, 0, [exit])]).build table = .ok population ∧
      { setup network population with
        keepEvents := true, dynamics := { stuckSecs := some 1 } }.build = .ok start ∧
      Sim.Run start history sim ∧ passage.world = sim.world ∧ sim.now = 1 ∧
      passage.tried = [⟨3⟩, ⟨0⟩] ∧
      passage.tried.Pairwise
        (Calendar.Before (population.dueAt ({ endSecs := 10 } : RunConfig).clock)) ∧
      Sim.Run start history' sim' ∧ sim'.now = 3 ∧
      (∃ event ∈ heard history', event.agent = ⟨3⟩ ∧ event.kind = .stuck ∧ event.time = 1) ∧
      admissions (heard history') = [⟨1⟩, ⟨2⟩, ⟨0⟩] ∧
      population.Alike ⟨1⟩ ⟨0⟩ ∧
      Calendar.Before (population.dueAt ({ endSecs := 10 } : RunConfig).clock) ⟨1⟩ ⟨0⟩ := by
  have ran : drive? draft [(narrow, 1, [exit]), (narrow, 0, [exit]), (wide, 0, [exit]),
      (wide, 0, [exit])]
      (fun network population => { setup network population with
        keepEvents := true, dynamics := { stuckSecs := some 1 } }) 1
      (fun _ population _ sim =>
        (sim.runTicks {} 2).toOption.bind fun sim' =>
        (sim.world.interval sim.flowPermanent).toOption.bind fun (_ : Interval Rat) =>
        sim'.log.bind fun (log : EventLog) =>
        (sim'.world.population.get? ⟨3⟩).map fun (agent : Agent) =>
          decide ((sim.world.departures.drain sim.now).1 = [⟨3⟩, ⟨0⟩]) &&
            decide (admissions log.events.toList = [⟨1⟩, ⟨2⟩, ⟨0⟩]) &&
            !boarded log.events.toList ⟨3⟩ && decide (agent.trip.outcome = some .stuck) &&
            decide ([sim.now, sim'.now, agent.departureSecs,
              population.dueAt ({ endSecs := 10 } : RunConfig).clock ⟨3⟩] = [1, 3, 0, 0]) &&
            decide ([population.start? ⟨1⟩, population.start? ⟨0⟩] =
              [some (narrow, exit), some (narrow, exit)])) = some true := by decide +kernel
  obtain ⟨network, population, start, sim, history, connected, populated, built, -, run, seen⟩ :=
    exists_of_drive? ran
  simp only [Option.bind_eq_some_iff, Option.map_eq_some_iff, Attempt.toOption_eq_some,
    Bool.and_eq_true, Bool.not_eq_true', decide_eq_true_eq, List.cons.injEq, and_true] at seen
  obtain ⟨sim', ticked', interval, simulated, log, kept, agent, found, ⟨⟨⟨⟨due, admitted⟩, never⟩,
    outcome⟩, now, now', departs, since⟩, starts, starts'⟩ := seen
  obtain ⟨later, -, run'⟩ := run.runTicks ticked'
  rw [run'.log_eq_heard (SimSetup.build_eq_ok built) kept] at admitted never
  obtain ⟨passage, reached, -, -⟩ := World.exists_passage simulated
  have tried : passage.tried = [⟨3⟩, ⟨0⟩] := by
    rw [passage.tried_eq_drain, Passage.tick, reached]
    exact due
  obtain ⟨order, -⟩ := (Sim.Run.departs_in_order (crowd_drafted _) populated built run).1
    passage reached
  obtain ⟨-, stuck, settled, alike⟩ :=
    Sim.Run.departs_in_order (crowd_drafted _) populated built run'
  have overdue : ({ endSecs := 10 } : RunConfig).clock.tickAtOrAfter agent.departureSecs + 1 <
      sim'.now := by
    rw [departs, now']
    decide
  have patience : ({ stuckSecs := some 1 } : Dynamics Rat).stuckTicks 1 = some 1 := by decide
  obtain boarded | skipped | ⟨event, member, own, kind⟩ :=
    settled 1 patience ⟨3⟩ agent found overdue
  · cases never.symm.trans boarded
  · cases outcome.symm.trans skipped
  · obtain ⟨limit, limited, time⟩ := stuck event member kind (own ▸ never)
    cases patience.symm.trans limited
    rw [own] at time
    have pair : population.Alike ⟨1⟩ ⟨0⟩ := ⟨_, starts, starts'⟩
    have sooner := alike Quantity.depletes_rat
    rw [admitted] at sooner
    exact ⟨network, population, start, sim, history, sim', _, passage, connected, populated, built,
      run, reached, now, tried, order, run', now',
      ⟨event, member, own, kind, time.trans (congrArg (· + 1) since)⟩, admitted, pair,
      (List.pairwise_cons.mp sooner).1 ⟨0⟩ (by decide) pair⟩

end MixedTraffic

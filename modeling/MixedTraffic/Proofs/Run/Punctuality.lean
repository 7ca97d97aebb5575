import MixedTraffic.Proofs.Agenda
import MixedTraffic.Proofs.Run.Precedence
import MixedTraffic.Proofs.Run.Succession

namespace MixedTraffic

/-! When an agent tries to depart: in the interval in which it is due and in every one after it,
until it departs, is skipped or has waited for too long. -/

/-- That whoever waits to depart has done so since it was due, and that nobody who has not tried
yet is overdue. -/
structure Population.Punctual (population : Population) (due : AgentId → Tick) (now : Tick) :
    Prop where
  waits : ∀ ⦃id agent since⦄, population.get? id = some agent →
    agent.trip.state = .waiting since → since = due id
  begins : ∀ ⦃id agent⦄, population.get? id = some agent → agent.trip = {} → now ≤ due id

/-- That an agent which found no room has waited for too long, or has not. -/
def Happening.Timely (due : AgentId → Tick) (limit? : Option Nat) (now : Tick) :
    Happening → Prop
  | gaveUp id _ => ∃ limit, limit? = some limit ∧ due id + limit ≤ now
  | turnedAway id _ => ∀ limit, limit? = some limit → now < due id + limit
  | _ => True

theorem Happening.touched?_of_departure? {happening : Happening}
    (departs : happening.departure?.isSome) : happening.touched? = some happening.agent := by
  cases happening with
  | heldUp => cases departs
  | departed | skipped | turnedAway | gaveUp | transferred | arrived | removed => rfl

variable {α : Type}

namespace Traffic

variable {context : RouteContext} {traffic traffic' : Traffic α} {due : AgentId → Tick}
  {id : AgentId}

theorem since_eq_due {agent : Agent} {waiting : Trip}
    (timed : traffic.population.Punctual due context.now) (reached : due id ≤ context.now)
    (found : traffic.population.get? id = some agent)
    (acts : agent.trip.act? (.wait context.now) = some waiting) :
    waiting.state = .waiting (due id) := by
  obtain ⟨since, state⟩ := Trip.waiting_of_act?_wait acts
  obtain ⟨now, same, reason⟩ := Trip.wait_of_waiting acts state
  cases same
  obtain old | ⟨new, rfl⟩ := reason
  · rw [state, timed.waits found old]
  · rw [state, le_antisymm (timed.begins found new) reached]

theorem hasWaited_iff {agent : Agent} {waiting : Trip}
    (timed : traffic.population.Punctual due context.now) (reached : due id ≤ context.now)
    (found : traffic.population.get? id = some agent)
    (acts : agent.trip.act? (.wait context.now) = some waiting) :
    hasWaited
        { traffic with
          population := traffic.population.set id { agent with trip := waiting } }
        id context.now = true ↔
      ∃ limit, traffic.roads.stuckTicks = some limit ∧ due id + limit ≤ context.now := by
  unfold hasWaited
  rw [Population.get?_set_self found, Option.map_some, since_eq_due timed reached found acts]
  cases traffic.roads.stuckTicks with
  | none => simp
  | some limit => simp [Nat.le_sub_iff_add_le' reached]

variable [Quantity α] {table : ModeTable α} {happening : Happening}
  {happenings : List Happening}

theorem Step.exists_act (step : Step table context traffic happening traffic')
    (touched : happening.touched? = some id) :
    ∃ agent trip action last, traffic.population.get? id = some agent ∧
      traffic'.population.get? id = some { agent with trip := last } ∧
      trip.act? action = some last ∧
      ∀ now, action = .wait now →
        trip = agent.trip ∧ now = context.now ∧ happening.departure?.isSome := by
  cases step with
  | heldUp => cases touched
  | departed found _ _ _ _ _ _ acts | skipped found _ acts | gaveUp found _ _ _ _ _ _ _ acts
  | transferred _ _ _ _ found acts | arrived _ _ found _ acts | removed _ _ found acts =>
      cases touched
      exact ⟨_, _, _, _, found, Population.get?_set_self found _, acts, by rintro _ ⟨⟩⟩
  | turnedAway found _ _ waits =>
      cases touched
      refine ⟨_, _, _, _, found, Population.get?_set_self found _, waits, ?_⟩
      rintro _ ⟨⟩
      exact ⟨rfl, rfl, rfl⟩

theorem Step.get?_of_untouched (step : Step table context traffic happening traffic')
    (untouched : happening.touched? ≠ some id) :
    traffic'.population.get? id = traffic.population.get? id :=
  ((Untouched.refl traffic id).step untouched step).agent

theorem Steps.untouched_of_new (steps : Steps table context traffic happenings traffic')
    {agent : Agent} (found : traffic'.population.get? id = some agent) (new : agent.trip = {}) :
    id ∉ happenings.filterMap Happening.touched? ∧
      traffic.population.get? id = some agent := by
  induction steps with
  | nil => exact ⟨List.not_mem_nil, found⟩
  | @cons _ _ _ happening _ step steps ih =>
      obtain ⟨later, found⟩ := ih found
      have untouched : happening.touched? ≠ some id := by
        intro touched
        obtain ⟨_, _, _, _, -, after, acts, -⟩ := step.exists_act touched
        cases found.symm.trans after
        exact Trip.ne_new_of_act? acts new
      refine ⟨fun listed => ?_, (step.get?_of_untouched untouched).symm.trans found⟩
      obtain ⟨other, member, touched⟩ := List.mem_filterMap.mp listed
      obtain rfl | member := List.mem_cons.mp member
      · exact untouched touched
      · exact later (List.mem_filterMap.mpr ⟨other, member, touched⟩)

section Punctual

variable (timed : traffic.population.Punctual due context.now)
  (reached : happening.departure?.isSome → due happening.agent ≤ context.now)
include timed reached

theorem Step.punctual (step : Step table context traffic happening traffic') :
    traffic'.population.Punctual due context.now where
  waits id agent since found' waiting := by
    by_cases touched : happening.touched? = some id
    · obtain ⟨agent, trip, action, last, found, after, acts, only⟩ := step.exists_act touched
      cases found'.symm.trans after
      obtain ⟨now, rfl, -⟩ := Trip.wait_of_waiting acts waiting
      obtain ⟨rfl, rfl, departs⟩ := only now rfl
      have own : happening.agent = id :=
        Option.some.inj ((Happening.touched?_of_departure? departs).symm.trans touched)
      have state := since_eq_due timed (own ▸ reached departs) found acts
      exact TripState.waiting.inj (waiting.symm.trans state)
    · rw [step.get?_of_untouched touched] at found'
      exact timed.waits found' waiting
  begins id agent found' new := by
    by_cases touched : happening.touched? = some id
    · obtain ⟨_, _, _, _, -, after, acts, -⟩ := step.exists_act touched
      cases found'.symm.trans after
      exact absurd new (Trip.ne_new_of_act? acts)
    · rw [step.get?_of_untouched touched] at found'
      exact timed.begins found' new

theorem Step.timely (step : Step table context traffic happening traffic') :
    happening.Timely due traffic.roads.stuckTicks context.now := by
  cases step with
  | departed | skipped | transferred | arrived | removed | heldUp => trivial
  | turnedAway found _ _ acts _ _ _ patient =>
      intro limit limited
      by_contra late
      have waited := (hasWaited_iff timed (reached rfl) found acts).mpr
        ⟨limit, limited, not_lt.mp late⟩
      cases patient.symm.trans waited
  | gaveUp found _ _ acts _ _ _ impatient =>
      exact (hasWaited_iff timed (reached rfl) found acts).mp impatient

end Punctual

theorem Steps.timely (timed : traffic.population.Punctual due context.now)
    (reached : ∀ happening ∈ happenings, happening.departure?.isSome →
      due happening.agent ≤ context.now)
    (steps : Steps table context traffic happenings traffic') :
    traffic'.population.Punctual due context.now ∧
      ∀ happening ∈ happenings, happening.Timely due traffic.roads.stuckTicks context.now := by
  induction steps with
  | nil => exact ⟨timed, List.forall_mem_nil _⟩
  | cons step steps ih =>
      obtain ⟨first, others⟩ := List.forall_mem_cons.mp reached
      obtain ⟨later, timelies⟩ := ih (step.punctual timed first) others
      rw [Roads.stuckTicks_eq_of_rules step.rules] at timelies
      exact ⟨later, List.forall_mem_cons.mpr ⟨step.timely timed first, timelies⟩⟩

end Traffic

namespace Happening

variable {happenings : List Happening} {outcomes : List (AgentId × DepartureOutcome)}

theorem agent_of_departure? {happening : Happening} {outcome : AgentId × DepartureOutcome}
    (departs : happening.departure? = some outcome) : happening.agent = outcome.1 := by
  cases happening <;> cases departs <;> rfl

theorem exists_turnedAway {happening : Happening} {id : AgentId}
    (departs : happening.departure? = some (id, .turnedAway)) :
    ∃ link, happening = turnedAway id link := by
  cases happening <;> cases departs
  exact ⟨_, rfl⟩

theorem map_agent_of_named (named : happenings.map departure? = outcomes.map some) :
    happenings.map agent = outcomes.map (·.1) := by
  induction happenings generalizing outcomes with
  | nil => rw [List.map_eq_nil_iff.mp named.symm, List.map_nil, List.map_nil]
  | cons happening rest ih =>
      obtain ⟨outcome, others, rfl, first, named⟩ := List.map_eq_cons_iff.mp named.symm
      rw [List.map_cons, List.map_cons, agent_of_departure? first.symm, ih named.symm]

end Happening

variable [Quantity α]

/-- That in a run nobody departs too early or too late. -/
structure World.Punctual (world : World α) (due : AgentId → Tick) : Prop where
  keeps : world.departures.Keeps due world.clock.now
  agents : world.population.Punctual due world.clock.now
  patient : ∀ limit, world.roads.stuckTicks = some limit →
    ∀ id ∈ world.departures.entries, world.clock.now ≤ due id + limit

namespace World.Placed

variable {world : World α} {id : AgentId} {agent : Agent}

theorem mem_entries_iff (placed : world.Placed) (found : world.population.get? id = some agent) :
    id ∈ world.departures.entries ↔
      agent.trip.isFinished = false ∧ id ∉ world.roads.riders := by
  obtain ⟨place, shows⟩ := placed.traffic.shown found
  cases place with
  | pending =>
      obtain ⟨⟨unfinished, -⟩, once, absent⟩ := shows
      refine iff_of_true (List.count_pos_iff.mp (once ▸ Nat.one_pos)) ⟨?_, ?_⟩
      · rw [Trip.isFinished, unfinished, Option.isSome_none]
      · exact List.count_eq_zero.mp absent
  | enRoute =>
      obtain ⟨absent, once, -⟩ := shows
      refine iff_of_false (List.count_eq_zero.mp absent) fun both => both.2 ?_
      exact List.count_pos_iff.mp (once ▸ Nat.one_pos)
  | finished =>
      obtain ⟨⟨-, ended⟩, absent, -⟩ := shows
      refine iff_of_false (List.count_eq_zero.mp absent) fun both => ?_
      cases ended.symm.trans both.1

theorem mem_entries_of_isPending (placed : world.Placed)
    (found : world.population.get? id = some agent) (pending : agent.trip.IsPending) :
    id ∈ world.departures.entries := by
  obtain ⟨place, shows⟩ := placed.traffic.shown found
  cases place with
  | pending => exact List.count_pos_iff.mp (shows.2.1 ▸ Nat.one_pos)
  | enRoute =>
      obtain ⟨-, -, _, _, _, moving, -⟩ := shows
      rw [moving] at pending
      obtain inactive | ⟨_, waiting⟩ := pending.2
      · cases inactive
      · cases waiting
  | finished =>
      have ended := shows.1.2
      rw [pending.1] at ended
      cases ended

end World.Placed

namespace Passage

variable (passage : Passage α)

/-- The agents that try to depart, in their order. -/
def tried : List AgentId := passage.course.outcomes.map (·.1)

theorem tried_eq_drain :
    passage.tried = (passage.world.departures.drain passage.tick).1 := by
  rw [tried, passage.follows.due, passage.follows.revises.departures, passage.clock]

theorem map_agent_departures : passage.course.departures.map (·.agent) = passage.tried :=
  Happening.map_agent_of_named passage.follows.named

theorem stuckTicks_next :
    passage.interval.next.roads.stuckTicks = passage.world.roads.stuckTicks :=
  Roads.stuckTicks_eq_of_rules
    (passage.follows.steps.rules.trans (World.refilled_like passage.follows.changed).rules)

theorem departures_next : passage.interval.next.departures =
    (passage.world.departures.drain passage.tick).2.requeue (passage.tick + 1)
      ((passage.course.outcomes.filter (·.2 = .turnedAway)).map (·.1)) := by
  change passage.course.calendar = _
  rw [Course.calendar, passage.follows.revises.departures, passage.clock]

theorem exists_turnedAway {id : AgentId}
    (again : id ∈ (passage.course.outcomes.filter (·.2 = .turnedAway)).map (·.1)) :
    ∃ link, .turnedAway id link ∈ passage.course.departures := by
  obtain ⟨⟨id, outcome⟩, listed, rfl⟩ := List.mem_map.mp again
  obtain ⟨tried, turned⟩ := List.mem_filter.mp listed
  obtain rfl : outcome = .turnedAway := of_decide_eq_true turned
  have named : some (id, .turnedAway) ∈ passage.course.outcomes.map some :=
    List.mem_map_of_mem tried
  rw [← passage.follows.named] at named
  obtain ⟨happening, member, departs⟩ := List.mem_map.mp named
  obtain ⟨link, rfl⟩ := Happening.exists_turnedAway departs
  exact ⟨link, member⟩

variable {passage} {due : AgentId → Tick} (punctual : passage.world.Punctual due)
include punctual

theorem mem_tried {id : AgentId} :
    id ∈ passage.tried ↔ id ∈ passage.world.departures.entries ∧ due id ≤ passage.tick := by
  rw [passage.tried_eq_drain]
  exact punctual.keeps.mem_drain

theorem pairwise_tried : passage.tried.Pairwise (Calendar.Before due) := by
  rw [passage.tried_eq_drain]
  exact punctual.keeps.pairwise_drain

theorem reached_of_departure? {happening : Happening}
    (member : happening ∈ passage.course.happenings) (departs : happening.departure?.isSome) :
    due happening.agent ≤ passage.tick := by
  obtain departed | ordered := List.mem_append.mp member
  · have listed : happening.agent ∈ passage.course.departures.map (·.agent) :=
      List.mem_map_of_mem departed
    rw [passage.map_agent_departures] at listed
    exact ((mem_tried punctual).mp listed).2
  · obtain ⟨decision, -, ordered⟩ := List.mem_flatMap.mp ordered
    rw [Happening.departure?_of_mem_orders ordered] at departs
    cases departs

theorem timely :
    passage.interval.next.population.Punctual due passage.tick ∧
      ∀ happening ∈ passage.course.happenings,
        happening.Timely due passage.world.roads.stuckTicks passage.tick := by
  have same := Roads.stuckTicks_eq_of_rules (World.refilled_like passage.follows.changed).rules
  have start : passage.course.changed.refilled.population.Punctual due
      (passage.course.changed.context passage.flowPermanent).now := by
    change passage.course.changed.population.Punctual due passage.course.changed.clock.now
    rw [passage.clock, passage.follows.revises.population]
    exact punctual.agents
  have both := passage.follows.steps.timely start fun happening member departs =>
    (reached_of_departure? punctual member departs).trans_eq passage.context_now.symm
  rw [passage.context_now, same] at both
  exact both

/-- An agent whose trip has not begun by the end of an interval is not due in it. -/
theorem lt_due_of_new (placed : passage.world.Placed) {id : AgentId} {agent : Agent}
    (found : passage.interval.next.population.get? id = some agent) (new : agent.trip = {}) :
    passage.tick < due id := by
  obtain ⟨untouched, before⟩ := passage.follows.steps.untouched_of_new found new
  change passage.course.changed.population.get? id = some agent at before
  rw [passage.follows.revises.population] at before
  by_contra reached
  have listed := (mem_tried punctual).mpr
    ⟨placed.mem_entries_of_isPending before (new ▸ Trip.isPending_new), not_lt.mp reached⟩
  rw [← passage.map_agent_departures] at listed
  obtain ⟨happening, member, own⟩ := List.mem_map.mp listed
  have departs := Happening.departure?_ne_none passage.follows.named happening member
  refine untouched (List.mem_filterMap.mpr ⟨happening, List.mem_append_left _ member, ?_⟩)
  rw [Happening.touched?_of_departure? (Option.isSome_iff_ne_none.mpr departs), own]

theorem punctual_next (placed : passage.world.Placed) :
    passage.interval.next.Punctual due := by
  obtain ⟨agents, timelies⟩ := timely punctual
  have again : ((passage.course.outcomes.filter (·.2 = .turnedAway)).map (·.1)).Sublist
      passage.tried := List.filter_sublist.map _
  refine ⟨?_, ⟨agents.waits, fun id agent found new => ?_⟩, fun limit limited id listed => ?_⟩
  · rw [passage.departures_next, passage.clock_next]
    exact punctual.keeps.advance ((pairwise_tried punctual).sublist again) fun id listed =>
      ((mem_tried punctual).mp (again.subset listed)).2
  · rw [passage.clock_next]
    exact lt_due_of_new punctual placed found new
  · rw [passage.stuckTicks_next] at limited
    rw [passage.clock_next]
    rw [passage.departures_next, (Calendar.requeue_perm ..).mem_iff] at listed
    obtain turned | left := List.mem_append.mp listed
    · obtain ⟨link, member⟩ := passage.exists_turnedAway turned
      exact timelies _ (List.mem_append_left _ member) limit limited
    · obtain ⟨slot, trailing, member⟩ := List.mem_flatMap.mp left
      have late : passage.tick < due id := (punctual.keeps.later trailing member).2
      exact late.trans_le (Nat.le_add_right _ _)

/-- Who gives up to depart does so when the limit is reached, counted from when it was due. -/
theorem tick_of_gaveUp {id : AgentId} {link : LinkId}
    (member : .gaveUp id link ∈ passage.course.happenings) :
    ∃ limit, passage.world.roads.stuckTicks = some limit ∧ passage.tick = due id + limit := by
  obtain ⟨limit, limited, reached⟩ := (timely punctual).2 _ member
  refine ⟨limit, limited, le_antisymm ?_ reached⟩
  obtain departed | ordered := List.mem_append.mp member
  · have listed : id ∈ passage.course.departures.map (·.agent) := List.mem_map_of_mem departed
    rw [passage.map_agent_departures] at listed
    exact punctual.patient limit limited id ((mem_tried punctual).mp listed).1
  · obtain ⟨decision, -, ordered⟩ := List.mem_flatMap.mp ordered
    cases Happening.departure?_of_mem_orders ordered

end Passage

namespace World.Punctual

variable {world world' : World α} {due : AgentId → Tick}

theorem of_build {σ : Type} {setup : SimSetup α σ} {start : Sim α σ}
    (built : setup.build = .ok start) (fresh : setup.population.Fresh) :
    start.world.Punctual (setup.population.dueAt setup.config.clock) := by
  obtain ⟨_, -, world⟩ := (SimSetup.build_eq_ok built).world
  rw [world]
  refine ⟨.ofPopulation fresh _, ⟨fun id agent since found waits => ?_,
    fun _ _ _ _ => Nat.zero_le _⟩, fun _ _ _ _ => Nat.zero_le _⟩
  rw [(fresh found).2] at waits
  cases waits

theorem run {history : List (Interval α)} (punctual : world.Punctual due)
    (placed : world.Placed) (run : World.Run world history world') : world'.Punctual due := by
  refine (run.preserves (fun world => world.Placed ∧ world.Punctual due)
    (fun {world flowPermanent interval} both simulated => ?_) ⟨placed, punctual⟩).2
  refine ⟨both.1.interval simulated, ?_⟩
  obtain ⟨passage, rfl, rfl, rfl⟩ := World.exists_passage simulated
  exact passage.punctual_next both.2 both.1

end World.Punctual

namespace World.Passes

variable {start world : World α} {passages : List (Passage α)} {due : AgentId → Tick}

theorem tick_of_gaveUp (passes : start.Passes passages world) (placed : start.Placed)
    (punctual : start.Punctual due) {passage : Passage α} (listed : passage ∈ passages)
    {id : AgentId} {link : LinkId} (member : .gaveUp id link ∈ passage.course.happenings) :
    ∃ limit, start.roads.stuckTicks = some limit ∧ passage.tick = due id + limit := by
  induction passes with
  | start => cases listed
  | step before ih =>
      obtain earlier | last := List.mem_append.mp listed
      · exact ih earlier
      · obtain rfl := List.mem_singleton.mp last
        have rules := (Enduring.rules start.roads).run rfl before.run
        rw [← Roads.stuckTicks_eq_of_rules rules]
        exact passage.tick_of_gaveUp (punctual.run placed before.run) member

end World.Passes

end MixedTraffic

import Mathlib.Algebra.BigOperators.Ring.Finset
import MixedTraffic.Proofs.Run.Journey

namespace MixedTraffic

/-! The places of all agents add up, and the counters of a run are those of its events. -/

section Sums

open Finset

variable {β : Type} {items : List β} {size : Nat}

theorem countP_eq_sum (owner : β → AgentId) (counted : β → Bool)
    (known : ∀ item ∈ items, (owner item).index < size) :
    items.countP counted = ∑ index ∈ range size,
      (items.filter (owner · = ⟨index⟩)).countP counted := by
  induction items with
  | nil => simp
  | cons item rest ih =>
      have bound := known item List.mem_cons_self
      have others := ih fun other member => known other (List.mem_cons_of_mem _ member)
      have same (index : Nat) : owner item = ⟨index⟩ ↔ index = (owner item).index := by
        obtain ⟨key⟩ := owner item
        simp [eq_comm]
      have one (index : Nat) :
          ((item :: rest).filter (owner · = ⟨index⟩)).countP counted =
            (rest.filter (owner · = ⟨index⟩)).countP counted +
              if index = (owner item).index then (if counted item then 1 else 0) else 0 := by
        by_cases own : index = (owner item).index
        · rw [if_pos own, List.filter_cons_of_pos (by simpa using (same index).mpr own),
            List.countP_cons]
        · rw [if_neg own, List.filter_cons_of_neg (by simpa [same] using own), Nat.add_zero]
      simp only [one, sum_add_distrib, sum_ite_eq', mem_range, bound, if_true]
      rw [← others, List.countP_cons]

theorem length_eq_sum_count {agents : List AgentId} (known : ∀ id ∈ agents, id.index < size) :
    agents.length = ∑ index ∈ range size, agents.count ⟨index⟩ := by
  have parts := countP_eq_sum id (fun _ => true) known
  simp only [List.countP_true, ← List.countP_eq_length_filter] at parts
  rw [parts]
  refine sum_congr rfl fun index _ => ?_
  simp [List.count, beq_eq_decide]

theorem countP_eq_sum_get? (counted : β → Bool) (items : List β) :
    items.countP counted = ∑ index ∈ range items.length,
      items[index]?.elim 0 fun item => if counted item then 1 else 0 := by
  induction items with
  | nil => simp
  | cons item rest ih =>
      rw [List.length_cons, sum_range_succ', List.countP_cons, ih]
      simp

end Sums

theorem Happening.countP_departures {kind : EventKind} {counted : List DepartureOutcome}
    {now : Tick}
    (single : ∀ happening id outcome, departure? happening = some (id, outcome) →
      (happening.events now).countP (·.kind = kind) =
        if counted.contains outcome then 1 else 0)
    {happenings : List Happening} {outcomes : List (AgentId × DepartureOutcome)}
    (named : happenings.map departure? = outcomes.map some) :
    (happenings.flatMap (·.events now)).countP (·.kind = kind) =
      World.countOutcomes outcomes counted := by
  induction outcomes generalizing happenings with
  | nil =>
      obtain rfl := List.map_eq_nil_iff.mp named
      rfl
  | cons outcome others ih =>
      cases happenings with
      | nil => cases named
      | cons happening happenings =>
          obtain ⟨first, later⟩ := List.cons.inj named
          obtain ⟨id, result⟩ := outcome
          rw [List.flatMap_cons, List.countP_append, single happening id result first,
            ih later]
          simp only [World.countOutcomes, List.countP_cons]
          omega

theorem MoveCounts.foldl_add {β : Type} (counts : β → MoveCounts) (items : List β)
    (start : MoveCounts) :
    (items.foldl (fun total item => total.add (counts item)) start).arrived =
        start.arrived + (items.map fun item => (counts item).arrived).sum ∧
      (items.foldl (fun total item => total.add (counts item)) start).stuck =
        start.stuck + (items.map fun item => (counts item).stuck).sum := by
  induction items generalizing start with
  | nil => exact ⟨rfl, rfl⟩
  | cons item rest ih =>
      obtain ⟨arrived, stuck⟩ := ih (start.add (counts item))
      rw [List.foldl_cons, arrived, stuck, List.map_cons, List.map_cons, List.sum_cons,
        List.sum_cons]
      exact ⟨Nat.add_assoc .., Nat.add_assoc ..⟩

/-- What a decision counts is heard when its orders are carried out. -/
theorem NodeDecision.countP_orders (decision : NodeDecision) (now : Tick) :
    (decision.orders.flatMap (·.events now)).countP (·.kind = .departed) = 0 ∧
    (decision.orders.flatMap (·.events now)).countP (·.kind = .arrived) =
      decision.counts.arrived ∧
    (decision.orders.flatMap (·.events now)).countP (·.kind = .stuck) =
      decision.counts.stuck := by
  have marks : (decision.blocked.map Happening.ofMark).flatMap (·.events now) = [] := by
    rw [List.flatMap_map]
    simp [Happening.events, Happening.ofMark]
  obtain ⟨arrived, stuck⟩ := MoveCounts.foldl_add MoveCounts.ofMove decision.moves {}
  simp only [orders, List.flatMap_append, marks, List.append_nil, List.flatMap_map,
    NodeDecision.counts, MoveCounts.ofMoves, arrived, stuck, Nat.zero_add]
  generalize decision.moves = moves
  induction moves with
  | nil => exact ⟨rfl, rfl, rfl⟩
  | cons move rest ih =>
      obtain ⟨departed, arrived, stuck⟩ := ih
      simp only [List.flatMap_cons, List.countP_append, departed, arrived, stuck,
        List.map_cons, List.sum_cons]
      cases move <;>
        simp [Happening.ofMove, Happening.events, MoveCounts.ofMove]

variable {α : Type}

namespace Journey

def rides : Journey → Nat
  | along _ _ none => 1
  | _ => 0

variable {roads : Roads α} {pending : List AgentId} {id : AgentId} {trip : Trip}
  {journey : Journey} {place : Place}

theorem count_riders_eq (fits : journey.Fits roads id trip)
    (shows : roads.Shows pending id trip place) : roads.riders.count id = journey.rides := by
  cases place with
  | pending =>
      rw [Recorded.unheard_of_isPending fits shows.1]
      exact shows.2.2
  | enRoute =>
      obtain ⟨-, once, link, step, vehicle, moving, -⟩ := shows
      rw [moving] at fits
      obtain ⟨first, later, rfl, -⟩ := Recorded.along_of_moving fits
      exact once
  | finished =>
      obtain ⟨⟨state, -⟩, -, off⟩ := shows
      match journey, fits with
      | unheard, _ => exact off
      | refused .., _ => exact off
      | along _ _ none, ⟨moving, _⟩ =>
          rw [moving] at state
          cases state
      | along _ _ (some (.arrived _)), _ => exact off
      | along _ _ (some (.removed _)), _ => exact off

end Journey

variable [Quantity α]

/-- The summary of an interval counts the events that are heard in it. -/
theorem Course.Follows.tallies {course : Course α} {world : World α} {flowPermanent : Bool}
    (follows : course.Follows world flowPermanent) :
    course.interval.summary.departed =
        course.interval.events.toList.countP (·.kind = .departed) ∧
      course.interval.summary.arrived =
        course.interval.events.toList.countP (·.kind = .arrived) ∧
      course.interval.summary.stuck =
        course.interval.events.toList.countP (·.kind = .stuck) := by
  have outcomes (kind : EventKind) (counted : List DepartureOutcome) (single : ∀ happening id
      outcome, Happening.departure? happening = some (id, outcome) →
        (happening.events course.changed.clock.now).countP (·.kind = kind) =
          if counted.contains outcome then 1 else 0) :=
    Happening.countP_departures single follows.named
  have departed := outcomes .departed [.departed] (by
    intro happening id outcome kind
    cases happening <;> cases kind <;> rfl)
  have arrived := outcomes .arrived [] (by
    intro happening id outcome kind
    cases happening <;> cases kind <;> rfl)
  have stuck := outcomes .stuck [.gaveUp] (by
    intro happening id outcome kind
    cases happening <;> cases kind <;> rfl)
  have nobody : World.countOutcomes course.outcomes [] = 0 := by
    simp [World.countOutcomes]
  have orders : (course.orders.flatMap (·.events course.changed.clock.now)).countP
        (·.kind = .departed) = 0 ∧
      (course.orders.flatMap (·.events course.changed.clock.now)).countP
        (·.kind = .arrived) = course.counts.arrived ∧
      (course.orders.flatMap (·.events course.changed.clock.now)).countP
        (·.kind = .stuck) = course.counts.stuck := by
    obtain ⟨total, totalStuck⟩ := MoveCounts.foldl_add NodeDecision.counts course.decisions {}
    simp only [Course.orders, Course.counts, total, totalStuck, Nat.zero_add]
    generalize course.decisions = decisions
    induction decisions with
    | nil => exact ⟨rfl, rfl, rfl⟩
    | cons decision rest ih =>
        obtain ⟨first, second, third⟩ := ih
        obtain ⟨departed, arrived, stuck⟩ :=
          decision.countP_orders course.changed.clock.now
        simp only [List.flatMap_cons, List.flatMap_append, List.countP_append, departed,
          arrived, stuck, first, second, third, List.map_cons, List.sum_cons, and_self]
  rw [follows.events, Course.happenings, List.flatMap_append]
  simp only [List.countP_append, departed, arrived, stuck, nobody, orders]
  exact ⟨rfl, (Nat.zero_add _).symm, rfl⟩

namespace World

/-- That an agent of the population is in a place. -/
def Has (world : World α) (id : AgentId) (place : Place) : Prop :=
  ∃ agent, world.population.get? id = some agent ∧
    world.roads.Shows world.departures.entries id agent.trip place

namespace Placed

variable {world : World α}

theorem exists_has (placed : world.Placed) {id : AgentId}
    (bound : id.index < world.population.size) : ∃ place, world.Has id place := by
  obtain ⟨agent, found⟩ := Option.isSome_iff_exists.mp (Population.isSome_get?.mpr bound)
  obtain ⟨place, shows⟩ := placed.traffic.shown found
  exact ⟨place, agent, found, shows⟩

theorem existsUnique_has (placed : world.Placed) {id : AgentId}
    (bound : id.index < world.population.size) : ∃! place, world.Has id place := by
  obtain ⟨place, agent, found, shows⟩ := placed.exists_has bound
  refine ⟨place, ⟨agent, found, shows⟩, ?_⟩
  intro other elsewhere
  obtain ⟨again, refound, shows'⟩ := elsewhere
  cases found.symm.trans refound
  -- No two places agree on both counts.
  cases place <;> cases other <;> simp only [Roads.Shows] at shows shows' <;>
    first | rfl | omega

/-- The places of all agents are counted by the calendar, the queues and the population. -/
theorem sum_places (placed : world.Placed) :
    world.departures.size + world.roads.size + world.population.finished =
      world.population.size := by
  have known (id : AgentId)
      (listed : id ∈ world.departures.entries ∨ id ∈ world.roads.riders) :
      id.index < world.population.size :=
    Population.isSome_get?.mp (placed.traffic.known listed)
  have pending := length_eq_sum_count fun id listed => known id (.inl listed)
  have riding := length_eq_sum_count fun id rides => known id (.inr rides)
  have finished := countP_eq_sum_get? (·.trip.isFinished) world.population.agents.toList
  have size : world.roads.size = world.roads.riders.length := by
    rw [Roads.size_eq_length_fleet, Roads.riders, List.length_map]
  rw [placed.sized, size, pending, riding, Population.finished, ← Array.countP_toList, finished,
    Array.length_toList, ← Finset.sum_add_distrib]
  change _ + ∑ index ∈ Finset.range world.population.size, _ = _
  rw [← Finset.sum_add_distrib, Finset.sum_congr rfl (g := fun _ => 1) ?_]
  · simp
  · intro index member
    obtain ⟨place, agent, found, shows⟩ :=
      placed.exists_has (Finset.mem_range.mp member : (⟨index⟩ : AgentId).index < _)
    have listed : world.population.agents.toList[index]? = some agent := by
      rw [Array.getElem?_toList]
      exact found
    rw [listed, Option.elim_some]
    cases place with
    | pending =>
        obtain ⟨⟨outcome, -⟩, once, off⟩ := shows
        simp [once, off, Trip.isFinished, outcome]
    | enRoute =>
        obtain ⟨gone, once, link, step, vehicle, moving, -⟩ := shows
        simp [once, gone, Trip.isFinished, moving]
    | finished =>
        obtain ⟨⟨-, outcome⟩, gone, off⟩ := shows
        simp [gone, off, Trip.isFinished, outcome]

end Placed

end World

/-- The events of vehicles taken off a link: those of getting stuck by agents that had
entered one. -/
def removals (events : List Event) : Nat :=
  events.countP fun event => event.kind = .stuck ∧
    events.any fun other => other.kind = .linkEntered ∧ other.agent = event.agent

namespace Journey

theorem kind_of_mem_passing {id : AgentId} {first : Leg} {later : List Leg} {event : Event}
    (member : event ∈ passing id first later) :
    event.kind = .linkLeft ∨ event.kind = .linkEntered := by
  induction later generalizing first with
  | nil => cases member
  | cons leg later ih =>
      simp only [passing, List.mem_cons] at member
      rcases member with rfl | rfl | rest
      · exact .inl rfl
      · exact .inr rfl
      · exact ih rest

theorem countP_passing {id : AgentId} {first : Leg} {later : List Leg} {kind : EventKind}
    (left : kind ≠ .linkLeft) (entered : kind ≠ .linkEntered) :
    (passing id first later).countP (·.kind = kind) = 0 := by
  apply List.countP_eq_zero.mpr
  intro event member
  rcases kind_of_mem_passing member with same | same <;> simp [same, left.symm, entered.symm]

theorem countP_departed (id : AgentId) (journey : Journey) :
    (journey.events id).countP (·.kind = .departed) =
      (journey.events id).countP (·.kind = .arrived) + journey.rides +
        (journey.events id).countP fun event => event.kind = .stuck ∧
          (journey.events id).any (·.kind = .linkEntered) := by
  match journey with
  | unheard => rfl
  | refused .. => simp [events, rides]
  | along first later none =>
      simp [events, rides, closing, countP_passing]
  | along first later (some (.arrived _)) =>
      simp [events, rides, closing, countP_passing]
  | along first later (some (.removed _)) =>
      simp [events, rides, closing, countP_passing]

end Journey

theorem Recorded.countP_departed {world : World α} {events : List Event}
    {journeys : AgentId → Journey}
    (recorded : Recorded events world.roads world.population journeys)
    (placed : world.Placed) :
    events.countP (·.kind = .departed) =
      events.countP (·.kind = .arrived) + world.roads.size + removals events := by
  have known : ∀ event ∈ events, event.agent.index < world.population.size := by
    intro event member
    by_contra outside
    have unknown : world.population.get? event.agent = none := by
      rw [← Option.not_isSome_iff_eq_none, Population.isSome_get?]
      exact outside
    have own := recorded.own event.agent
    rw [recorded.stranger unknown] at own
    have heard : event ∈ events.filter (·.agent = event.agent) := by
      simpa using member
    rw [own] at heard
    cases heard
  have size : world.roads.size = world.roads.riders.length := by
    rw [Roads.size_eq_length_fleet, Roads.riders, List.length_map]
  have riding : world.roads.riders.length = ∑ index ∈ Finset.range world.population.size,
      world.roads.riders.count ⟨index⟩ :=
    length_eq_sum_count fun id rides =>
      Population.isSome_get?.mp (placed.traffic.known (.inr rides))
  rw [size, riding, removals, countP_eq_sum Event.agent _ known,
    countP_eq_sum Event.agent _ known, countP_eq_sum Event.agent _ known,
    ← Finset.sum_add_distrib, ← Finset.sum_add_distrib]
  refine Finset.sum_congr rfl fun index member => ?_
  obtain ⟨place, agent, found, shows⟩ :=
    placed.exists_has (Finset.mem_range.mp member : (⟨index⟩ : AgentId).index < _)
  have own := recorded.own ⟨index⟩
  have told := (journeys ⟨index⟩).countP_departed ⟨index⟩
  rw [← Journey.count_riders_eq (recorded.fits found) shows, ← own] at told
  rw [told]
  congr 1
  apply List.countP_congr
  intro event mine
  have same : event.agent = ⟨index⟩ := by simpa using List.of_mem_filter mine
  simp [same, List.any_filter, and_comm]

theorem World.Run.size {start world : World α} {history : List (Interval α)}
    (run : World.Run start history world) : world.population.size = start.population.size := by
  refine run.preserves (fun world => world.population.size = start.population.size) ?_ rfl
  intro world flowPermanent interval same simulated
  obtain ⟨course, follows, rfl⟩ := World.interval_eq_ok.mp simulated
  rw [← same, ← follows.revises.population]
  exact follows.steps.size

theorem World.Run.tallies {start world : World α} {history : List (Interval α)}
    (run : World.Run start history world) :
    (history.map (·.summary.departed)).sum = (heard history).countP (·.kind = .departed) ∧
    (history.map (·.summary.arrived)).sum = (heard history).countP (·.kind = .arrived) ∧
    (history.map (·.summary.stuck)).sum = (heard history).countP (·.kind = .stuck) := by
  induction run with
  | start => exact ⟨rfl, rfl, rfl⟩
  | step _ simulated ih =>
      obtain ⟨departed, arrived, stuck⟩ := ih
      obtain ⟨course, follows, rfl⟩ := World.interval_eq_ok.mp simulated
      obtain ⟨left, came, lost⟩ := follows.tallies
      simp only [List.map_append, List.sum_append, List.map_singleton, List.sum_singleton,
        heard_append, heard_singleton, List.countP_append, departed, arrived, stuck, left,
        came, lost, and_self]

/-- After any number of intervals, every agent is in exactly one place, the places add up to
the population, and the counters are those of the events. -/
theorem Sim.Run.everyone_in_one_place {σ : Type} {setup : SimSetup α σ} {start sim : Sim α σ}
    {history : List (Interval α)} {draft : PopulationDraft} {table : ModeTable α}
    (drafted : draft.Drafted) (populated : draft.build table = .ok setup.population)
    (built : setup.build = .ok start) (run : Sim.Run start history sim) :
    (∀ id : AgentId, id.index < setup.population.size → ∃! place, sim.world.Has id place) ∧
    sim.world.departures.size + sim.world.roads.size + sim.world.population.finished =
      sim.world.population.size ∧
    sim.world.population.size = setup.population.size ∧
    (sim.world.departures.size = 0 ∧ sim.world.roads.size = 0 ↔
      sim.world.population.finished = sim.world.population.size) ∧
    sim.totals.departed = (heard history).countP (·.kind = .departed) ∧
    sim.totals.arrived = (heard history).countP (·.kind = .arrived) ∧
    sim.totals.stuck = (heard history).countP (·.kind = .stuck) ∧
    sim.totals.departed =
      sim.totals.arrived + sim.world.roads.size + removals (heard history) ∧
    ∀ log, sim.log = some log → log.events.toList = heard history := by
  have fresh := drafted.fresh_of_build populated
  have starts := SimSetup.build_eq_ok built
  have placed := (World.Placed.of_build built fresh).run run.world
  obtain ⟨journeys, recorded⟩ :=
    Recorded.run run.world (World.Placed.of_build built fresh) (Recorded.of_build built fresh)
  have size : sim.world.population.size = setup.population.size := by
    obtain ⟨roads, -, world⟩ := starts.world
    rw [run.world.size, world]
  have sum := placed.sum_places
  obtain ⟨departed, arrived, stuck⟩ := run.totals
  obtain ⟨left, came, lost⟩ := run.world.tallies
  rw [starts.totals, Nat.zero_add] at departed arrived stuck
  refine ⟨fun id bound => placed.existsUnique_has (size ▸ bound), sum, size, by omega,
    departed.trans left, arrived.trans came, stuck.trans lost, ?_,
    fun log => run.log_eq_heard starts⟩
  rw [departed, arrived, left, came]
  exact recorded.countP_departed placed

/-- One of three agents has arrived, one is on the road and one has yet to depart. -/
theorem Bottleneck.everyone_in_one_place_of_three :
    ∃ network population start sim history, draft.build = .ok network ∧
      (crowd [(narrow, 0, [exit]), (narrow, 1, [exit]), (wide, 5, [entry, exit])]).build
        table = .ok population ∧
      (setup network population).build = .ok start ∧ Sim.Run start history sim ∧
      (sim.world.departures.size, sim.world.roads.size, sim.world.population.finished) =
        (1, 1, 1) ∧
      sim.world.population.size = 3 ∧
      (heard history).countP (·.kind = .departed) = 2 ∧ removals (heard history) = 0 := by
  have ran : drive? draft [(narrow, 0, [exit]), (narrow, 1, [exit]), (wide, 5, [entry, exit])]
      setup 2 (fun _ _ _ sim =>
        some ((sim.world.departures.size, sim.world.roads.size,
          sim.world.population.finished), sim.totals.departed, sim.totals.arrived)) =
      some ((1, 1, 1), 2, 1) := by decide +kernel
  obtain ⟨network, population, start, sim, history, connected, populated, built, -, run, seen⟩ :=
    exists_of_drive? ran
  obtain ⟨places, departures⟩ := Prod.mk.inj (Option.some.inj seen)
  obtain ⟨-, sum, -, -, departed, -, -, balance, -⟩ :=
    Sim.Run.everyone_in_one_place (crowd_drafted _) populated built run
  simp only [Prod.mk.injEq] at places departures
  refine ⟨network, population, start, sim, _, connected, populated, built, run, ?_, ?_, ?_, ?_⟩
  · simp [places]
  · omega
  · exact departed.symm.trans departures.1
  · omega

end MixedTraffic

import MixedTraffic.Proofs.Run.Happening

namespace MixedTraffic

/-! An interval is a course of happenings: those of the due agents, then those that the
nodes have ordered. -/

namespace NodeDecision

/-- The happenings that a decision leads to. -/
def orders (decision : NodeDecision) : List Happening :=
  decision.moves.map .ofMove ++ decision.blocked.map .ofMark

end NodeDecision

variable {α : Type} [Quantity α]

namespace Traffic

inductive Steps (table : ModeTable α) (context : RouteContext) :
    Traffic α → List Happening → Traffic α → Prop where
  | nil {traffic : Traffic α} : Steps table context traffic [] traffic
  | cons {traffic middle traffic' : Traffic α} {happening : Happening}
      {rest : List Happening}
      (step : Step table context traffic happening middle)
      (steps : Steps table context middle rest traffic') :
      Steps table context traffic (happening :: rest) traffic'

variable {table : ModeTable α} {context : RouteContext} {traffic middle traffic' : Traffic α}
  {happening : Happening} {happenings : List Happening}

theorem Step.events (step : Step table context traffic happening traffic') :
    traffic'.events.toList = traffic.events.toList ++ happening.events context.now := by
  cases step <;> exact after_events ..

namespace Steps

theorem append {first second : List Happening}
    (before : Steps table context traffic first middle)
    (after : Steps table context middle second traffic') :
    Steps table context traffic (first ++ second) traffic' := by
  induction before with
  | nil => exact after
  | cons step _ ih => exact .cons step (ih after)

theorem of_append {first second : List Happening}
    (steps : Steps table context traffic (first ++ second) traffic') :
    ∃ middle, Steps table context traffic first middle ∧
      Steps table context middle second traffic' := by
  induction first generalizing traffic with
  | nil => exact ⟨traffic, .nil, steps⟩
  | cons happening rest ih =>
      cases steps with
      | cons step steps =>
          obtain ⟨middle, before, after⟩ := ih steps
          exact ⟨middle, .cons step before, after⟩

theorem events (steps : Steps table context traffic happenings traffic') :
    traffic'.events.toList =
      traffic.events.toList ++ happenings.flatMap (·.events context.now) := by
  induction steps with
  | nil => simp
  | cons step _ ih => rw [ih, step.events, List.flatMap_cons, List.append_assoc]

/-- What every happening keeps, a course of happenings keeps. -/
theorem preserves (holds : Traffic α → Prop)
    (each : ∀ {traffic traffic' : Traffic α} {happening : Happening},
      holds traffic → Step table context traffic happening traffic' → holds traffic')
    (start : holds traffic) (steps : Steps table context traffic happenings traffic') :
    holds traffic' := by
  induction steps with
  | nil => exact start
  | cons step _ ih => exact ih (each start step)

/-- As `preserves`, of what depends on the happenings so far. -/
theorem accumulates (holds : List Happening → Traffic α → Prop)
    (each : ∀ {done rest : List Happening} {happening : Happening}
      {traffic traffic' : Traffic α}, happenings = done ++ happening :: rest →
        holds done traffic → Step table context traffic happening traffic' →
          holds (done ++ [happening]) traffic')
    (start : holds [] traffic) (steps : Steps table context traffic happenings traffic') :
    holds happenings traffic' := by
  have later (done rest : List Happening) (traffic : Traffic α)
      (parts : happenings = done ++ rest) (held : holds done traffic)
      (steps : Steps table context traffic rest traffic') : holds happenings traffic' := by
    induction rest generalizing done traffic with
    | nil =>
        cases steps
        rw [parts, List.append_nil]
        exact held
    | cons first rest ih =>
        cases steps with
        | cons step steps =>
            refine ih (done ++ [first]) _ ?_ (each parts held step) steps
            rw [parts, List.append_assoc]
            rfl
  exact later [] happenings traffic rfl start steps

theorem of_foldlM {ι ε : Type} {work : Traffic α → ι → Except ε (Traffic α)}
    {name : ι → Happening}
    (single : ∀ traffic item traffic',
      work traffic item = .ok traffic' ↔ Step table context traffic (name item) traffic')
    {items : List ι} {traffic traffic' : Traffic α} :
    items.foldlM work traffic = .ok traffic' ↔
      Steps table context traffic (items.map name) traffic' := by
  induction items generalizing traffic with
  | nil =>
      simp only [List.foldlM_nil, Attempt.pure_eq_ok, List.map_nil]
      constructor
      · rintro rfl
        exact .nil
      · intro steps
        cases steps
        rfl
  | cons item rest ih =>
      simp only [List.foldlM_cons, Attempt.bind_eq_ok, List.map_cons, ih]
      constructor
      · rintro ⟨middle, done, steps⟩
        exact .cons ((single _ _ _).mp done) steps
      · intro steps
        cases steps with
        | cons step steps => exact ⟨_, (single _ _ _).mpr step, steps⟩

end Steps

theorem moves_eq_ok {moves : List Move} :
    moves.foldlM (move context.now) traffic = .ok traffic' ↔
      Steps table context traffic (moves.map .ofMove) traffic' :=
  Steps.of_foldlM fun _ _ _ => by exact move_eq_ok

theorem marks_eq_ok {blocked : List (LinkId × AgentId)} :
    blocked.foldlM (mark context.now) traffic = .ok traffic' ↔
      Steps table context traffic (blocked.map .ofMark) traffic' :=
  Steps.of_foldlM fun _ _ _ => by exact mark_eq_ok

theorem commit_eq_ok {decision : NodeDecision} :
    commit context.now traffic decision = .ok traffic' ↔
      Steps table context traffic decision.orders traffic' := by
  simp only [commit, Attempt.bind_eq_ok]
  constructor
  · intro committed
    obtain ⟨middle, moved, marked⟩ := committed
    exact (moves_eq_ok.mp moved).append (marks_eq_ok.mp marked)
  · intro steps
    obtain ⟨middle, moved, marked⟩ := Steps.of_append steps
    exact ⟨middle, moves_eq_ok.mpr moved, marks_eq_ok.mpr marked⟩

theorem commits_eq_ok {decisions : List NodeDecision} :
    decisions.foldlM (commit context.now) traffic = .ok traffic' ↔
      Steps table context traffic (decisions.flatMap (·.orders)) traffic' := by
  have single (decision : NodeDecision) {traffic traffic' : Traffic α} :
      commit context.now traffic decision = .ok traffic' ↔
        Steps table context traffic decision.orders traffic' := commit_eq_ok
  induction decisions generalizing traffic with
  | nil =>
      simp only [List.foldlM_nil, Attempt.pure_eq_ok, List.flatMap_nil]
      constructor
      · rintro rfl
        exact .nil
      · intro steps
        cases steps
        rfl
  | cons decision rest ih =>
      simp only [List.foldlM_cons, Attempt.bind_eq_ok, List.flatMap_cons,
        single, ih]
      constructor
      · rintro ⟨middle, first, others⟩
        exact first.append others
      · exact Steps.of_append

theorem departAll_eq_ok {due : List AgentId}
    {outcomes : List (AgentId × DepartureOutcome)} :
    departAll table context traffic due = .ok (outcomes, traffic') ↔
      outcomes.map (·.1) = due ∧
      ∃ happenings, happenings.map Happening.departure? = outcomes.map some ∧
        Steps table context traffic happenings traffic' := by
  induction due generalizing traffic traffic' outcomes with
  | nil =>
      simp only [departAll, Except.ok.injEq, Prod.mk.injEq, List.map_eq_nil_iff]
      constructor
      · rintro ⟨rfl, rfl⟩
        exact ⟨rfl, [], rfl, .nil⟩
      · rintro ⟨rfl, happenings, named, steps⟩
        obtain rfl := List.map_eq_nil_iff.mp named
        cases steps
        exact ⟨rfl, rfl⟩
  | cons id rest ih =>
      simp only [departAll, Attempt.bind_eq_ok, Prod.exists, Attempt.pure_eq_ok,
        Prod.mk.injEq, depart_eq_ok, ih]
      constructor
      · rintro ⟨outcome, middle, ⟨happening, kind, step⟩, others, _,
          ⟨rfl, happenings, named, steps⟩, rfl, rfl⟩
        exact ⟨rfl, happening :: happenings, by rw [List.map_cons, kind, named]; rfl,
          .cons step steps⟩
      · rintro ⟨due, happenings, named, steps⟩
        cases outcomes with
        | nil => cases due
        | cons first others =>
            obtain ⟨id', outcome⟩ := first
            cases happenings with
            | nil => cases named
            | cons happening happenings =>
                simp only [List.map_cons, List.cons.injEq] at due named
                obtain ⟨rfl, rest⟩ := due
                cases steps with
                | cons step steps =>
                    exact ⟨outcome, _, ⟨happening, named.1, step⟩, others, traffic',
                      ⟨rest, happenings, named.2, steps⟩, rfl, rfl⟩

end Traffic

theorem Happening.departure?_ne_none {happenings : List Happening}
    {outcomes : List (AgentId × DepartureOutcome)}
    (named : happenings.map departure? = outcomes.map some) :
    ∀ happening ∈ happenings, happening.departure? ≠ none := by
  intro happening member
  have listed : happening.departure? ∈ happenings.map departure? := List.mem_map_of_mem member
  rw [named] at listed
  obtain ⟨outcome, -, same⟩ := List.mem_map.mp listed
  rw [← same]
  exact Option.some_ne_none outcome

namespace World

variable {world world' : World α}

def context (world : World α) (flowPermanent : Bool) : RouteContext :=
  { now := world.clock.now, flowPermanent }

/-- The traffic of a new interval, before anybody departs. -/
def refilled (world : World α) : Traffic α :=
  { roads := world.roads.refill, population := world.population }

/-- A world that differs from another at most in its network, roads and changes. -/
structure Revises (world' world : World α) : Prop where
  clock : world'.clock = world.clock
  table : world'.table = world.table
  population : world'.population = world.population
  departures : world'.departures = world.departures

theorem applyChange_eq_ok {change : NetworkChange α} :
    world.applyChange change = .ok world' ↔
      ∃ network, world.network.apply change = .ok network ∧
        world' = { world with
          network
          roads := world.roads.refresh change.link network world.table
          changes := world.changes.tail } := by
  simp only [applyChange, Attempt.bind_eq_ok, Attempt.mapError_eq_ok, Attempt.pure_eq_ok]
  constructor
  · rintro ⟨network, applied, rfl⟩
    exact ⟨network, applied, rfl⟩
  · rintro ⟨network, applied, rfl⟩
    exact ⟨network, applied, rfl⟩

theorem revises_of_foldlM {changes : List (NetworkChange α)}
    (made : changes.foldlM applyChange world = .ok world') : world'.Revises world := by
  refine Attempt.foldlM_preserves (fun middle => Revises middle world) ?_
    ⟨rfl, rfl, rfl, rfl⟩ made
  intro middle change after _ revises applied
  obtain ⟨network, -, rfl⟩ := applyChange_eq_ok.mp applied
  exact ⟨revises.clock, revises.table, revises.population, revises.departures⟩

/-- What every change keeps of the network and the roads, any number of changes keeps. -/
theorem foldlM_applyChange_preserves (holds : Network α → Roads α → Prop)
    {changes : List (NetworkChange α)}
    (each : ∀ network roads change network', change ∈ changes → holds network roads →
      network.apply change = .ok network' →
      holds network' (roads.refresh change.link network' world.table))
    (start : holds world.network world.roads)
    (made : changes.foldlM applyChange world = .ok world') :
    holds world'.network world'.roads := by
  have both := Attempt.foldlM_preserves
    (fun middle => middle.table = world.table ∧ holds middle.network middle.roads)
    ?_ ⟨rfl, start⟩ made
  · exact both.2
  · rintro middle change after member ⟨table, held⟩ applied
    obtain ⟨network, done, rfl⟩ := applyChange_eq_ok.mp applied
    refine ⟨table, ?_⟩
    rw [table]
    exact each _ _ _ _ member held done

theorem applyChanges_revises (made : world.applyChanges = .ok world') :
    world'.Revises world :=
  revises_of_foldlM made

theorem changes_of_foldlM {changes : List (NetworkChange α)}
    (made : changes.foldlM applyChange world = .ok world') :
    world'.changes = world.changes.drop changes.length := by
  induction changes generalizing world with
  | nil => rw [← Attempt.pure_eq_ok.mp made, List.length_nil, List.drop_zero]
  | cons change rest ih =>
      rw [List.foldlM_cons, Attempt.bind_eq_ok] at made
      obtain ⟨middle, applied, later⟩ := made
      obtain ⟨network, -, rfl⟩ := applyChange_eq_ok.mp applied
      rw [ih later, List.drop_tail, List.length_cons]

/-- The changes that are not due yet are those still to be made. -/
theorem changes_of_applyChanges (made : world.applyChanges = .ok world') :
    world'.changes = world.changes.dropWhile world.isDue := by
  have later : (world.changes.takeWhile world.isDue ++ world.changes.dropWhile world.isDue).drop
      (world.changes.takeWhile world.isDue).length = world.changes.dropWhile world.isDue :=
    List.drop_left
  rw [List.takeWhile_append_dropWhile] at later
  exact (changes_of_foldlM made).trans later

theorem departures?_eq_ok {context : RouteContext}
    {outcomes : List (AgentId × DepartureOutcome)} {traffic : Traffic α}
    {calendar : Calendar} :
    world.departures? context = .ok (outcomes, traffic, calendar) ↔
      context.now.after? α 1 = some (context.now + 1) ∧
      outcomes.map (·.1) = (world.departures.drain context.now).1 ∧
      (∃ happenings, happenings.map Happening.departure? = outcomes.map some ∧
        Traffic.Steps world.table context
          { roads := world.roads, population := world.population } happenings traffic) ∧
      calendar = (world.departures.drain context.now).2.requeue (context.now + 1)
        ((outcomes.filter (·.2 = .turnedAway)).map (·.1)) := by
  simp only [departures?, Attempt.bind_eq_ok, Attempt.elim_eq_ok, Attempt.mapError_eq_ok,
    Attempt.pure_eq_ok, Calendar.drain?_eq_some, Prod.exists, Prod.mk.injEq,
    Traffic.departAll_eq_ok]
  constructor
  · rintro ⟨due, later, ⟨counted, drained⟩, _, _, ⟨listed, departed⟩, rfl, rfl, rfl⟩
    rw [drained]
    exact ⟨counted, listed, departed, rfl⟩
  · rintro ⟨counted, listed, departed, rfl⟩
    exact ⟨_, _, ⟨counted, rfl⟩, _, _, ⟨listed, departed⟩, rfl, rfl, rfl⟩

end World

/-- The stages of one interval. -/
structure Course (α : Type) [Quantity α] where
  /-- The world after the changes that have come due. -/
  changed : World α
  departures : List Happening
  outcomes : List (AgentId × DepartureOutcome)
  /-- The traffic that all nodes decide from. -/
  midway : Traffic α
  decisions : List NodeDecision
  final : Traffic α

namespace Course

def orders (course : Course α) : List Happening := course.decisions.flatMap (·.orders)

def happenings (course : Course α) : List Happening := course.departures ++ course.orders

def counts (course : Course α) : MoveCounts :=
  course.decisions.foldl (fun counts decision => counts.add decision.counts) {}

def rejections (course : Course α) : Nat :=
  course.decisions.foldl (fun total decision => total + decision.rejections) 0

/-- The departures at the end of the interval. -/
def calendar (course : Course α) : Calendar :=
  (course.changed.departures.drain course.changed.clock.now).2.requeue
    (course.changed.clock.now + 1)
    ((course.outcomes.filter (·.2 = .turnedAway)).map (·.1))

def interval (course : Course α) : Interval α where
  world := { course.changed with
    roads := course.final.roads
    population := course.final.population
    departures := course.calendar }
  events := course.final.events
  summary := {
    tick := course.changed.clock.now
    onNetwork := course.final.roads.size
    departed := World.countOutcomes course.outcomes [.departed]
    arrived := course.counts.arrived
    stuck := World.countOutcomes course.outcomes [.gaveUp] + course.counts.stuck
    rejections :=
      World.countOutcomes course.outcomes [.turnedAway, .gaveUp] + course.rejections }

/-- That an interval of a world has these stages. -/
structure Follows (course : Course α) (world : World α) (flowPermanent : Bool) : Prop where
  changed : world.applyChanges = .ok course.changed
  /-- There is a next interval. -/
  counted : course.changed.clock.now.after? α 1 = some (course.changed.clock.now + 1)
  due : course.outcomes.map (·.1) =
    (course.changed.departures.drain course.changed.clock.now).1
  named : course.departures.map Happening.departure? = course.outcomes.map some
  departed : Traffic.Steps course.changed.table (course.changed.context flowPermanent)
    course.changed.refilled course.departures course.midway
  decided : World.decideAll course.changed.network
    (course.changed.context flowPermanent) course.midway = .ok course.decisions
  committed : Traffic.Steps course.changed.table (course.changed.context flowPermanent)
    course.midway course.orders course.final

variable {course : Course α} {world : World α} {flowPermanent : Bool}

theorem Follows.revises (follows : course.Follows world flowPermanent) :
    course.changed.Revises world :=
  World.applyChanges_revises follows.changed

theorem Follows.steps (follows : course.Follows world flowPermanent) :
    Traffic.Steps course.changed.table (course.changed.context flowPermanent)
      course.changed.refilled course.happenings course.final :=
  follows.departed.append follows.committed

theorem Follows.events (follows : course.Follows world flowPermanent) :
    course.interval.events.toList =
      course.happenings.flatMap (·.events course.changed.clock.now) :=
  follows.steps.events

end Course

/-- An interval is simulated exactly by following a course. -/
theorem World.interval_eq_ok {world : World α} {flowPermanent : Bool}
    {interval : Interval α} :
    world.interval flowPermanent = .ok interval ↔
      ∃ course : Course α, course.Follows world flowPermanent ∧
        interval = course.interval := by
  simp only [World.interval, commitAll, Attempt.bind_eq_ok, Attempt.mapError_eq_ok,
    Attempt.pure_eq_ok, Prod.exists, departures?_eq_ok]
  constructor
  · rintro ⟨changed, made, outcomes, midway, calendar,
      ⟨counted, due, ⟨departures, named, departed⟩, planned⟩, decisions, decided, final,
      committed, rfl⟩
    have clock := (applyChanges_revises made).clock
    rw [← clock] at counted due departed planned decided committed
    refine ⟨⟨changed, departures, outcomes, midway, decisions, final⟩,
      ⟨made, counted, due, named, departed, decided, Traffic.commits_eq_ok.mp committed⟩, ?_⟩
    rw [← clock, planned]
    rfl
  · rintro ⟨⟨changed, departures, outcomes, midway, decisions, final⟩,
      ⟨made, counted, due, named, departed, decided, committed⟩, rfl⟩
    have clock := (applyChanges_revises made).clock
    have carried := Traffic.commits_eq_ok.mpr committed
    refine ⟨changed, made, outcomes, midway, _, ⟨?_, ?_, ⟨departures, named, ?_⟩, rfl⟩,
      decisions, ?_, final, ?_, ?_⟩ <;> rw [← clock]
    · exact counted
    · exact due
    · exact departed
    · exact decided
    · exact carried
    · rfl

end MixedTraffic

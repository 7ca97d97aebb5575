import MixedTraffic.Proofs.Road.Resolution
import MixedTraffic.Proofs.Run.Departure
import MixedTraffic.Proofs.Run.Stream

namespace MixedTraffic

variable {α : Type} [Quantity α]

/-! An interval always comes as far as to the decisions of all nodes. -/

/-- A setup that is put together from drafts, with a population for its own modes and drivers
that find their way in its network. -/
structure SimSetup.Sensible {σ : Type} (setup : SimSetup α σ) : Prop where
  connected : ∃ draft : NetworkDraft α, draft.build = .ok setup.network
  populated : ∃ draft : PopulationDraft, draft.Drafted ∧
    draft.build setup.table = .ok setup.population
  orderly : ∀ id agent, setup.population.get? id = some agent →
    agent.driver.Orderly setup.network id

/-- A crowd keeps to the road if each of its routes does. -/
theorem Bottleneck.orderly_of_crowd {network : Network Rat} {population : Population}
    {trips : List (ModeId × Nat × List LinkId)}
    (populated : (crowd trips).build table = .ok population)
    (routes : ∀ trip ∈ trips, ∀ id, (Driver.fixed trip.2.2).Orderly network id) (id : AgentId)
    (agent : Agent) (found : population.get? id = some agent) :
    agent.driver.Orderly network id := by
  obtain ⟨trip, listed, own⟩ := exists_trip_of_build populated (Array.mem_of_getElem? found)
  exact own ▸ routes trip listed id

namespace World

variable {world world' : World α} {first : Network α} {tickSecs : Nat} {table : ModeTable α}
  {history : List (Interval α)} {journeys : AgentId → Journey} {flowPermanent : Bool}

theorem exists_changes {changes : List (NetworkChange α)}
    (valid : ∀ change ∈ changes, change.check world.network = .ok ()) :
    ∃ world', changes.foldlM applyChange world = .ok world' := by
  induction changes generalizing world with
  | nil => exact ⟨world, rfl⟩
  | cons change rest ih =>
      obtain ⟨checked, others⟩ := List.forall_mem_cons.mp valid
      obtain ⟨network, applied⟩ : ∃ network, world.network.apply change = .ok network :=
        ⟨_, Network.apply_eq_ok.mpr ⟨checked, rfl⟩⟩
      obtain ⟨middle, made, same⟩ : ∃ middle, world.applyChange change = .ok middle ∧
          middle.network = network :=
        ⟨_, applyChange_eq_ok.mpr ⟨network, applied, rfl⟩, rfl⟩
      have alike := Network.alike_apply applied
      rw [← same] at alike
      obtain ⟨world', later⟩ := ih fun other listed => alike.check (others other listed)
      refine ⟨world', ?_⟩
      rw [List.foldlM_cons, made]
      exact later

/-- What holds of a world between any two intervals, and lets the next one begin. -/
structure Poised (world : World α) (first : Network α) (tickSecs : Nat) (table : ModeTable α)
    (history : List (Interval α)) (journeys : AgentId → Journey) : Prop where
  chronicled : world.Chronicled first tickSecs table history journeys
  equipped : world.population.Equipped table first
  changes : ∀ change ∈ world.changes, change.check first = .ok ()

theorem Run.changes {start : World α} (run : Run start history world) :
    ∀ change ∈ world.changes, change ∈ start.changes := by
  refine run.preserves (fun world => ∀ change ∈ world.changes, change ∈ start.changes) ?_
    fun _ listed => listed
  intro world flowPermanent interval kept simulated
  obtain ⟨course, follows, rfl⟩ := interval_eq_ok.mp simulated
  have left := changes_of_applyChanges follows.changed
  intro change listed
  change change ∈ course.changed.changes at listed
  rw [left] at listed
  exact kept change (List.dropWhile_suffix _ |>.subset listed)

theorem Poised.of_run {σ : Type} {setup : SimSetup α σ} {start : Sim α σ}
    (sensible : setup.Sensible) (built : setup.build = .ok start)
    (run : Run start.world history world) :
    ∃ journeys, world.Poised setup.network setup.config.tickSecs setup.table history
      journeys := by
  obtain ⟨⟨links, connected⟩, ⟨draft, drafted, populated⟩, orderly⟩ := sensible
  have starts := SimSetup.build_eq_ok built
  obtain ⟨roads, -, initial⟩ := starts.world
  obtain ⟨journeys, chronicled⟩ :=
    (Chronicled.of_build built (drafted.fresh_of_build populated)).run
      (Network.sound_of_build connected) run
  refine ⟨journeys, chronicled, ?_, fun change listed => ?_⟩
  · refine (Population.Equipped.of_build populated orderly).of_unbegun fun id => ?_
    rw [run.unbegun, initial]
  · apply starts.changes
    have listed := run.changes change listed
    rw [initial] at listed
    exact List.mem_mergeSort.mp listed

/-- The stages of an interval up to the decisions of the nodes. -/
structure Prepares (world : World α) (flowPermanent : Bool) (tickSecs : Nat)
    (course : Course α) : Prop where
  changed : world.applyChanges = .ok course.changed
  counted : course.changed.clock.now.after? α 1 = some (course.changed.clock.now + 1)
  due : course.outcomes.map (·.1) =
    (course.changed.departures.drain course.changed.clock.now).1
  named : course.departures.map Happening.departure? = course.outcomes.map some
  departed : Traffic.Steps course.changed.table (course.changed.context flowPermanent)
    course.changed.refilled course.departures course.midway
  decided : decideAll course.changed.network (course.changed.context flowPermanent)
    course.midway = .ok course.decisions
  sound : course.changed.network.Sound
  mirrors : course.midway.roads.Mirrors tickSecs course.changed.network
  placed : ∃ pending, course.midway.Placed pending
  typed : ∀ {link vehicle}, (link, vehicle) ∈ course.midway.roads.fleet →
    vehicle.IsOf world.table

theorem Prepares.follows {course : Course α} {final : Traffic α}
    (prepares : world.Prepares flowPermanent tickSecs course)
    (committed : Traffic.Steps course.changed.table (course.changed.context flowPermanent)
      course.midway course.orders final) :
    { course with final }.Follows world flowPermanent :=
  ⟨prepares.changed, prepares.counted, prepares.due, prepares.named, prepares.departed,
    prepares.decided, committed⟩

/-- That an interval stops for an interval that is beyond all counting. -/
def RunsOut (world : World α) (flowPermanent : Bool) : Prop :=
  ∃ tick reached, Quantity.countsTo (α := α) tick = false ∧
    world.interval flowPermanent = .error ⟨.road (.noSuchTick tick), reached⟩

section Departing

variable {changed : World α} (made : world.applyChanges = .ok changed)
include made

theorem interval_of_departures? {stopped : Interrupted (RunError α) (World α)}
    (failed : ({ changed with roads := changed.roads.refill } : World α).departures?
      (changed.context flowPermanent) = .error stopped) :
    world.interval flowPermanent = .error stopped := by
  have clock := (applyChanges_revises made).clock
  unfold World.interval
  rw [made, Attempt.bind_eq_error, ← clock]
  exact .inr ⟨changed, rfl, Attempt.bind_eq_error.mpr (.inl failed)⟩

theorem RunsOut.of_after? (last : changed.clock.now.after? α 1 = none) :
    world.RunsOut flowPermanent := by
  refine ⟨changed.clock.now + 1, { changed with roads := changed.roads.refill },
    Tick.after?_eq_none.mp last, interval_of_departures? made ?_⟩
  simp only [departures?, context, Calendar.drain?, last]
  rfl

theorem RunsOut.of_departAll (counted : changed.clock.now.after? α 1 = some (changed.clock.now + 1))
    {stopped : Interrupted (RoadError α) (Traffic α)}
    (failed : changed.refilled.departAll changed.table (changed.context flowPermanent)
      (changed.departures.drain changed.clock.now).1 = .error stopped)
    (uncounted : stopped.cause.Uncounted) : world.RunsOut flowPermanent := by
  obtain ⟨tick, same, beyond⟩ := uncounted
  obtain ⟨cause, reached⟩ := stopped
  cases same
  let left : World α := { changed with
    roads := changed.roads.refill
    departures := (changed.departures.drain changed.clock.now).2 }
  refine ⟨tick, left.reach reached, beyond, interval_of_departures? made ?_⟩
  simp only [departures?, Attempt.bind_eq_error, Attempt.elim_eq_ok, Calendar.drain?_eq_some,
    Attempt.mapError_eq_error, Prod.exists]
  exact .inr ⟨_, _, ⟨counted, rfl⟩, .inl ⟨_, failed, rfl⟩⟩

end Departing

/-- The driver of every vehicle asks for links that follow the one it is on. -/
theorem Poised.directed (poised : world.Poised first tickSecs table history journeys)
    {traffic : Traffic α} {interval : Interval α} {departures : List Happening}
    {context : RouteContext} {network : Network α} (alike : network.Alike first)
    (unbegun : ∀ id, (traffic.population.get? id).map Agent.unbegun =
      (world.population.get? id).map Agent.unbegun)
    (tells : Traffic.Tells interval first tickSecs table (history ++ [interval])
      world.departures.entries (heard history) journeys departures traffic) :
    traffic.roads.Directed network traffic.population context := by
  obtain ⟨placed, recorded, -, lawful⟩ := tells.1
  intro link vehicle aboard
  obtain ⟨agent, found⟩ := Option.isSome_iff_exists.mp
    (placed.known (.inr (List.mem_map_of_mem (f := (·.2.agent)) aboard)))
  obtain ⟨begun, later, moving, journey, last, -⟩ := recorded.along placed found aboard rfl
  have itinerary := lawful found
  rw [journey] at itinerary
  have reaches := Journey.Itinerary.chosen itinerary (Journey.getElem?_length begun later)
  rw [last] at reaches
  refine ⟨agent, found, fun next chosen => ?_⟩
  rw [moving] at chosen
  have orderly := (poised.equipped.of_unbegun unbegun found).orderly
  exact alike.isSuccessor?_iff.mpr (orderly.next reaches chosen)

/-- The nodes come to decide in every interval, as long as the intervals can be counted. -/
theorem Poised.prepares_or_runsOut
    (poised : world.Poised first tickSecs table history journeys) (sound : first.Sound)
    (flowPermanent : Bool) :
    (∃ course, world.Prepares flowPermanent tickSecs course) ∨ world.RunsOut flowPermanent := by
  have whole := poised
  obtain ⟨chronicled, equipped, valid⟩ := poised
  have due : ∀ change ∈ world.changes.takeWhile world.isDue,
      change.check world.network = .ok () := by
    intro change listed
    refine chronicled.charted.alike.check (valid change ?_)
    exact (List.takeWhile_prefix _).subset listed
  obtain ⟨changed, made⟩ : ∃ changed, world.applyChanges = .ok changed := exists_changes due
  have revises := applyChanges_revises made
  have charted := chronicled.charted.changed made
  have sound := charted.alike.sound sound
  have before : changed.refilled.Placed world.departures.entries :=
    chronicled.traffic.placed.of_perm (.refl _) (refilled_like made) revises.population
  have population : changed.refilled.population = world.population := revises.population
  have modes : changed.table = table := revises.table.trans chronicled.modes
  have parts : (changed.departures.drain changed.clock.now).1 ++
      (changed.departures.drain changed.clock.now).2.entries = world.departures.entries := by
    rw [← revises.departures]
    exact Calendar.drain_append ..
  have distinct := parts ▸ before.nodup_pending
  cases counted : changed.clock.now.after? α 1 with
  | none => exact .inr (.of_after? made counted)
  | some next =>
  obtain ⟨-, rfl⟩ := Tick.after?_eq_some.mp counted
  obtain ⟨outcomes, departures, midway, outcome, named, departed⟩ | ⟨stopped, failed, uncounted⟩ :=
    before.exists_departures (modes ▸ population ▸ equipped.of_alike charted.alike)
      charted.mirrors.refill (changed.context flowPermanent) (List.nodup_append.mp distinct).1
      fun id listed => by
        rw [← parts]
        exact List.mem_append_left _ listed
  swap
  · exact .inr (.of_departAll made counted failed uncounted)
  -- The records of the interval so far, whatever the nodes will decide.
  let course : Course α := ⟨changed, departures, outcomes, midway, [], midway⟩
  have tells := chronicled.midway made (Happening.departure?_ne_none named) departed
    (rfl : course.interval.summary.tick = _) rfl
  rw [modes] at tells
  have unbegun : ∀ id, (midway.population.get? id).map Agent.unbegun =
      (world.population.get? id).map Agent.unbegun := by
    intro id
    rw [← population]
    exact departed.preserves
      (fun traffic => (traffic.population.get? id).map Agent.unbegun =
        (changed.refilled.population.get? id).map Agent.unbegun)
      (fun same step => (step.unbegun id).trans same) rfl
  have directed : midway.roads.Directed changed.network midway.population
      (changed.context flowPermanent) := whole.directed charted.alike unbegun tells
  obtain ⟨⟨placed, -, timed, -⟩, mirrors⟩ := tells
  obtain ⟨decisions, decided⟩ : ∃ decisions, decideAll changed.network
      (changed.context flowPermanent) midway = .ok decisions := by
    apply Attempt.exists_mapM
    intro node listed
    obtain ⟨index, bound, rfl⟩ := List.mem_map.mp listed
    exact Roads.exists_decide sound mirrors placed.labelled directed (List.mem_range.mp bound)
  refine .inl ⟨{ course with decisions }, made, counted, outcome, named, departed, decided, sound,
    mirrors, ⟨_, placed⟩, fun aboard => ?_⟩
  rw [chronicled.modes]
  exact timed.typed aboard

end World

end MixedTraffic

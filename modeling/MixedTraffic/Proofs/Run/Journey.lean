import Mathlib.Logic.Function.Basic
import MixedTraffic.Proofs.Run.Whereabouts

namespace MixedTraffic

/-! What is heard of one agent through a run: nothing, that it never came onto its first
link, or a chain of links that it entered and left. -/

structure Leg where
  link : LinkId
  entered : Tick
deriving DecidableEq

inductive Ending where
  | arrived (time : Tick)
  | removed (time : Tick)
deriving DecidableEq

inductive Journey where
  | unheard
  | refused (link : LinkId) (time : Tick)
  | along (first : Leg) (later : List Leg) (ending : Option Ending)
deriving DecidableEq

namespace Journey

/-- The leg after which none has been entered. -/
def final (first : Leg) (later : List Leg) : Leg := later.getLastD first

def passing (id : AgentId) : Leg → List Leg → List Event
  | _, [] => []
  | behind, leg :: later =>
      ⟨leg.entered, .linkLeft, id, behind.link⟩ ::
        ⟨leg.entered, .linkEntered, id, leg.link⟩ :: passing id leg later

def closing (id : AgentId) (leg : Leg) : Option Ending → List Event
  | none => []
  | some (.arrived time) =>
      [⟨time, .linkLeft, id, leg.link⟩, ⟨time, .arrived, id, leg.link⟩]
  | some (.removed time) => [⟨time, .stuck, id, leg.link⟩]

/-- The events of a journey, in the order of their emission. -/
def events (id : AgentId) : Journey → List Event
  | unheard => []
  | refused link time => [⟨time, .stuck, id, link⟩]
  | along first later ending =>
      ⟨first.entered, .departed, id, first.link⟩ ::
        ⟨first.entered, .linkEntered, id, first.link⟩ ::
          (passing id first later ++ closing id (final first later) ending)

/-- The journey of its agent after a happening. -/
def after (now : Tick) (happening : Happening) (journey : Journey) : Journey :=
  match happening, journey with
  | .departed _ link, _ => along ⟨link, now⟩ [] none
  | .gaveUp _ link, _ => refused link now
  | .transferred _ _ target, along first later none =>
      along first (later ++ [⟨target, now⟩]) none
  | .arrived .., along first later none => along first later (some (.arrived now))
  | .removed .., along first later none => along first later (some (.removed now))
  | _, _ => journey

def tell (now : Tick) (journeys : AgentId → Journey) (happening : Happening) :
    AgentId → Journey :=
  Function.update journeys happening.agent ((journeys happening.agent).after now happening)

theorem final_concat (first leg : Leg) (later : List Leg) :
    final first (later ++ [leg]) = leg := by
  simp [final]

theorem passing_concat (id : AgentId) (first leg : Leg) (later : List Leg) :
    passing id first (later ++ [leg]) = passing id first later ++
      [⟨leg.entered, .linkLeft, id, (final first later).link⟩,
        ⟨leg.entered, .linkEntered, id, leg.link⟩] := by
  induction later generalizing first with
  | nil => rfl
  | cons next later ih =>
      have same : final first (next :: later) = final next later := by
        cases later <;> rfl
      simp only [List.cons_append, passing, ih, same]

/-- How the trip of an agent stands after its journey so far. -/
def Fits {α : Type} (roads : Roads α) (id : AgentId) (trip : Trip) : Journey → Prop
  | unheard => trip.IsPending ∨ trip = ⟨.inactive, some .skipped⟩
  | refused .. => trip = ⟨.inactive, some .stuck⟩
  | along first later none =>
      trip = ⟨.moving (final first later).link later.length, none⟩ ∧
        ∃ vehicle, vehicle.agent = id ∧ vehicle.entered = (final first later).entered ∧
          ((final first later).link, vehicle) ∈ roads.fleet
  | along _ _ (some (.arrived _)) => trip = ⟨.inactive, some .arrived⟩
  | along _ _ (some (.removed _)) => trip = ⟨.inactive, some .stuck⟩

theorem Fits.congr {α : Type} {roads roads' : Roads α} {id : AgentId} {trip : Trip}
    {journey : Journey} (fits : journey.Fits roads id trip)
    (same : ∀ entry ∈ roads.fleet, entry.2.agent = id → entry ∈ roads'.fleet) :
    journey.Fits roads' id trip := by
  match journey, fits with
  | unheard, fits => exact fits
  | refused .., fits => exact fits
  | along first later none, ⟨moving, vehicle, own, entered, member⟩ =>
      exact ⟨moving, vehicle, own, entered, same _ member own⟩
  | along _ _ (some (.arrived _)), fits => exact fits
  | along _ _ (some (.removed _)), fits => exact fits

end Journey

variable {α : Type}

/-- What has been heard of each agent is its journey, and its trip stands accordingly. -/
structure Recorded (heard : List Event) (roads : Roads α) (population : Population)
    (journeys : AgentId → Journey) : Prop where
  own : ∀ id, heard.filter (·.agent = id) = (journeys id).events id
  fits : ∀ {id agent}, population.get? id = some agent →
    (journeys id).Fits roads id agent.trip
  stranger : ∀ {id}, population.get? id = none → journeys id = .unheard

namespace Recorded

variable {traffic traffic' : Traffic α} {pending : List AgentId} {heard : List Event}
  {journeys : AgentId → Journey}

theorem filter_events_self (happening : Happening) (now : Tick) :
    (happening.events now).filter (·.agent = happening.agent) = happening.events now := by
  cases happening <;> simp [Happening.events, Happening.agent]

theorem filter_events_other (happening : Happening) (now : Tick) {other : AgentId}
    (different : other ≠ happening.agent) :
    (happening.events now).filter (·.agent = other) = [] := by
  cases happening <;>
    simp_all [Happening.events, Happening.agent, eq_comm]

theorem unheard_of_isPending {roads : Roads α} {id : AgentId} {trip : Trip}
    {journey : Journey} (fits : journey.Fits roads id trip) (pending : trip.IsPending) :
    journey = .unheard := by
  obtain ⟨outcome, state⟩ := pending
  match journey, fits with
  | .unheard, _ => rfl
  | .refused .., fits =>
      obtain rfl : trip = _ := fits
      cases outcome
  | .along _ _ none, ⟨moving, _⟩ =>
      rw [moving] at state
      obtain state | ⟨_, state⟩ := state <;> cases state
  | .along _ _ (some (.arrived _)), fits =>
      obtain rfl : trip = _ := fits
      cases outcome
  | .along _ _ (some (.removed _)), fits =>
      obtain rfl : trip = _ := fits
      cases outcome

/-- The journey of an agent en route is not over, and it is on its last leg. -/
theorem along_of_moving {roads : Roads α} {id : AgentId} {link : LinkId} {step : Nat}
    {journey : Journey} (fits : journey.Fits roads id ⟨.moving link step, none⟩) :
    ∃ first later, journey = .along first later none ∧
      (Journey.final first later).link = link ∧ later.length = step ∧
      ∃ vehicle, vehicle.agent = id ∧
        vehicle.entered = (Journey.final first later).entered ∧
        (link, vehicle) ∈ roads.fleet := by
  match journey, fits with
  | .unheard, .inl fits => obtain ⟨_, state | ⟨_, state⟩⟩ := fits <;> cases state
  | .unheard, .inr fits => cases fits
  | .refused .., fits => cases fits
  | .along first later none, ⟨moving, vehicle, own, entered, member⟩ =>
      cases moving
      exact ⟨first, later, rfl, rfl, rfl, vehicle, own, entered, member⟩
  | .along _ _ (some (.arrived _)), fits => cases fits
  | .along _ _ (some (.removed _)), fits => cases fits

/-- The vehicle of an agent is on the last leg of its journey. -/
theorem along (recorded : Recorded heard traffic.roads traffic.population journeys)
    (placed : traffic.Placed pending) {id : AgentId} {agent : Agent} {source : LinkId}
    {vehicle : Vehicle α} (found : traffic.population.get? id = some agent)
    (member : (source, vehicle) ∈ traffic.roads.fleet) (own : vehicle.agent = id) :
    ∃ first later, agent.trip = ⟨.moving source later.length, none⟩ ∧
      journeys id = .along first later none ∧
      (Journey.final first later).link = source ∧
      vehicle.entered = (Journey.final first later).entered := by
  obtain ⟨place, shows⟩ := placed.shown found
  obtain ⟨⟨step, moving⟩, -, once⟩ := shows.enRoute_of_mem member own
  have fits := recorded.fits found
  rw [moving] at fits
  obtain ⟨first, later, journey, last, length, other, same, entered, there⟩ :=
    along_of_moving fits
  cases Roads.eq_of_count_riders once member own there same
  exact ⟨first, later, by rw [moving, length], journey, last, entered⟩

theorem along_of_aboard (recorded : Recorded heard traffic.roads traffic.population journeys)
    (placed : traffic.Placed pending) {id : AgentId} {agent : Agent} {source : LinkId}
    {queue : LinkQueue α} {vehicle : Vehicle α}
    (found : traffic.population.get? id = some agent)
    (present : traffic.roads.queue? source = some queue)
    (aboard : queue.vehicles.find? (·.agent == id) = some vehicle) :
    ∃ first later, agent.trip = ⟨.moving source later.length, none⟩ ∧
      journeys id = .along first later none ∧
      (Journey.final first later).link = source ∧ vehicle.agent = id := by
  have member := (Roads.mem_fleet placed.labelled).mpr
    ⟨queue, present, List.mem_of_find?_eq_some aboard⟩
  have own : vehicle.agent = id := by simpa using List.find?_some aboard
  obtain ⟨first, later, moving, journey, last, -⟩ := recorded.along placed found member own
  exact ⟨first, later, moving, journey, last, own⟩

theorem unheard_of_wait (recorded : Recorded heard traffic.roads traffic.population journeys)
    (placed : traffic.Placed pending) {id : AgentId} {agent : Agent} {now : Tick} {waiting : Trip}
    (found : traffic.population.get? id = some agent)
    (waits : agent.trip.act? (.wait now) = some waiting) :
    journeys id = .unheard ∧ ∃ since, waiting = ⟨.waiting since, none⟩ := by
  obtain ⟨place, shows⟩ := placed.shown found
  obtain ⟨isPending, since, -⟩ := shows.pending_of_wait waits
  exact ⟨unheard_of_isPending (recorded.fits found) isPending, since⟩

theorem of_like {roads roads' : Roads α} {population : Population}
    (recorded : Recorded heard roads population journeys) (like : roads'.Like roads) :
    Recorded heard roads' population journeys :=
  ⟨recorded.own, fun found => (recorded.fits found).congr fun _ member _ =>
    like.fleet.mem_iff.mpr member, recorded.stranger⟩

variable [Quantity α] {table : ModeTable α} {context : RouteContext} {happening : Happening}

/-- What the agent of a happening is heard of, and how its trip stands then. -/
theorem step_self (recorded : Recorded heard traffic.roads traffic.population journeys)
    (placed : traffic.Placed pending)
    (step : Traffic.Step table context traffic happening traffic') :
    (journeys happening.agent).events happening.agent ++ happening.events context.now =
        ((journeys happening.agent).after context.now happening).events happening.agent ∧
      ∀ {member}, traffic'.population.get? happening.agent = some member →
        ((journeys happening.agent).after context.now happening).Fits traffic'.roads
          happening.agent member.trip := by
  have whole := step
  generalize told : journeys happening.agent = journey
  cases step with
  | @departed id link agent _ _ queue vehicle seeping _ found _ _ waits present built _ acts =>
      obtain ⟨journey, since, rfl⟩ := recorded.unheard_of_wait placed found waits
      cases acts
      obtain rfl := told.symm.trans journey
      refine ⟨rfl, fun {member} found' => ?_⟩
      cases (Population.get?_set_self found _).symm.trans found'
      have joined := Roads.fleet_holding present (queue.stamped vehicle context.now seeping)
      have own := Vehicle.agent_of_new? built
      refine ⟨rfl, queue.stamped vehicle context.now seeping, own, rfl, ?_⟩
      rw [placed.labelled link queue present] at joined
      exact joined.mem_iff.mpr List.mem_cons_self
  | @skipped id agent _ found stays acts =>
      obtain ⟨place, shows⟩ := placed.shown found
      obtain ⟨isPending, rfl, -⟩ := shows.pending_of_skip acts
      obtain rfl := told.symm.trans (unheard_of_isPending (recorded.fits found) isPending)
      refine ⟨rfl, fun {member} found' => ?_⟩
      cases (Population.get?_set_self found _).symm.trans found'
      exact .inr rfl
  | @turnedAway id link agent _ _ _ found departs first waits =>
      obtain ⟨journey, since, rfl⟩ := recorded.unheard_of_wait placed found waits
      obtain rfl := told.symm.trans journey
      refine ⟨rfl, fun {member} found' => ?_⟩
      cases (Population.get?_set_self found _).symm.trans found'
      exact .inl ⟨rfl, .inr ⟨since, rfl⟩⟩
  | @gaveUp id link agent _ _ _ _ found departs first waits present built full impatient acts =>
      obtain ⟨journey, since, rfl⟩ := recorded.unheard_of_wait placed found waits
      cases acts
      obtain rfl := told.symm.trans journey
      refine ⟨rfl, fun {member} found' => ?_⟩
      cases (Population.get?_set_self found _).symm.trans found'
      rfl
  | @transferred id source target agent _ queue next vehicle seeping _ present aboard reached _
      found acts =>
      obtain ⟨first, later, moving, journey, last, own⟩ :=
        recorded.along_of_aboard placed found present aboard
      rw [moving] at acts
      cases acts
      obtain rfl := told.symm.trans journey
      constructor
      · simp [Journey.after, Journey.events, Journey.closing, Journey.passing_concat,
          Happening.events, Happening.agent, last]
      · intro member found'
        cases (Population.get?_set_self found _).symm.trans found'
        have released : (traffic.roads.setQueue source (queue.releasing vehicle true)).Labelled :=
          placed.labelled.setQueue present rfl
        have joined := Roads.fleet_holding reached (next.stamped vehicle context.now seeping)
        rw [released target next reached] at joined
        refine ⟨?_, next.stamped vehicle context.now seeping, own, ?_, ?_⟩
        · simp [Journey.final_concat]
        · rw [Journey.final_concat]
          rfl
        · rw [Journey.final_concat]
          exact joined.mem_iff.mpr List.mem_cons_self
  | @arrived id link agent _ _ queue vehicle present aboard found acts completes =>
      obtain ⟨first, later, moving, journey, last, own⟩ :=
        recorded.along_of_aboard placed found present aboard
      rw [moving] at acts
      cases acts
      cases completes
      obtain rfl := told.symm.trans journey
      constructor
      · simp [Journey.after, Journey.events, Journey.closing, Happening.events,
          Happening.agent, last]
      · intro member found'
        cases (Population.get?_set_self found _).symm.trans found'
        rfl
  | @removed id link agent _ queue vehicle present aboard found acts =>
      obtain ⟨first, later, moving, journey, last, own⟩ :=
        recorded.along_of_aboard placed found present aboard
      rw [moving] at acts
      cases acts
      obtain rfl := told.symm.trans journey
      constructor
      · simp [Journey.after, Journey.events, Journey.closing, Happening.events,
          Happening.agent, last]
      · intro member found'
        cases (Population.get?_set_self found _).symm.trans found'
        rfl
  | @heldUp id link queue present =>
      have like := whole.like_of_heldUp.1
      refine ⟨List.append_nil _, fun {member} found' => ?_⟩
      rw [← told]
      exact (recorded.fits found').congr fun entry member _ => like.fleet.mem_iff.mpr member

theorem step (recorded : Recorded heard traffic.roads traffic.population journeys)
    (placed : traffic.Placed pending)
    (step : Traffic.Step table context traffic happening traffic') :
    Recorded (heard ++ happening.events context.now) traffic'.roads traffic'.population
      (Journey.tell context.now journeys happening) := by
  obtain ⟨told, stands⟩ := recorded.step_self placed step
  unfold Journey.tell
  refine ⟨?_, ?_, ?_⟩
  · intro id
    rw [List.filter_append]
    by_cases own : id = happening.agent
    · subst own
      rw [filter_events_self, recorded.own, Function.update_self]
      exact told
    · rw [filter_events_other _ _ own, List.append_nil, recorded.own,
        Function.update_of_ne own]
  · intro id agent found
    by_cases own : id = happening.agent
    · subst own
      rw [Function.update_self]
      exact stands found
    · rw [step.get?_other own] at found
      rw [Function.update_of_ne own]
      exact (recorded.fits found).congr fun entry member same =>
        (step.mem_fleet_other (same ▸ own)).mpr member
  · intro id unknown
    by_cases own : id = happening.agent
    · subst own
      obtain ⟨id, link, rfl⟩ | known := step.known
      · rw [Function.update_self]
        rw [step.like_of_heldUp.2] at unknown
        exact recorded.stranger unknown
      · rw [Population.isSome_get?, ← step.size, ← Population.isSome_get?, unknown] at known
        cases known
    · rw [step.get?_other own] at unknown
      rw [Function.update_of_ne own]
      exact recorded.stranger unknown

theorem steps {happenings : List Happening}
    (recorded : Recorded heard traffic.roads traffic.population journeys)
    (placed : traffic.Placed pending)
    (steps : Traffic.Steps table context traffic happenings traffic') :
    Recorded (heard ++ happenings.flatMap (·.events context.now)) traffic'.roads
      traffic'.population (happenings.foldl (Journey.tell context.now) journeys) := by
  induction steps generalizing heard pending journeys with
  | nil => simpa using recorded
  | cons step _ ih =>
      have later := ih (recorded.step placed step) (placed.step step)
      simpa using later

theorem interval {world : World α} {flowPermanent : Bool} {course : Course α}
    (recorded : Recorded heard world.roads world.population journeys)
    (placed : world.Placed) (follows : course.Follows world flowPermanent) :
    Recorded (heard ++ course.interval.events.toList) course.final.roads
      course.final.population
      (course.happenings.foldl (Journey.tell course.changed.clock.now) journeys) := by
  have like := World.refilled_like follows.changed
  have population : course.changed.refilled.population = world.population :=
    follows.revises.population
  have before : course.changed.refilled.Placed world.departures.entries :=
    placed.traffic.of_perm (.refl _) like population
  have start : Recorded heard course.changed.refilled.roads
      course.changed.refilled.population journeys := by
    rw [population]
    exact recorded.of_like like
  rw [follows.events]
  exact start.steps before follows.steps

/-- After any run, what has been heard of each agent is a journey that its trip fits. -/
theorem run {start world : World α} {history : List (Interval α)}
    (run : World.Run start history world) (placed : start.Placed)
    (recorded : Recorded [] start.roads start.population journeys) :
    ∃ journeys, Recorded (MixedTraffic.heard history) world.roads world.population
      journeys := by
  induction run with
  | start => exact ⟨journeys, recorded⟩
  | step before simulated ih =>
      obtain ⟨journeys, recorded⟩ := ih
      obtain ⟨course, follows, rfl⟩ := World.interval_eq_ok.mp simulated
      have later := recorded.interval (placed.run before) follows
      rw [← heard_singleton, ← heard_append] at later
      exact ⟨_, later⟩

theorem of_build {σ : Type} {setup : SimSetup α σ} {start : Sim α σ}
    (built : setup.build = .ok start) (fresh : setup.population.Fresh) :
    Recorded [] start.world.roads start.world.population fun _ => .unheard := by
  obtain ⟨roads, opened, world⟩ := (SimSetup.build_eq_ok built).world
  rw [world]
  refine ⟨fun _ => rfl, fun {id agent} found => ?_, fun _ => rfl⟩
  rw [(fresh found).2]
  exact .inl Trip.isPending_new

end Recorded

end MixedTraffic

import MixedTraffic.Proofs.Population
import MixedTraffic.Proofs.Road.Fleet
import MixedTraffic.Run.Interval

namespace MixedTraffic

/-! Everything that traffic does is one of a few happenings, each to one agent. `Step` says
what each of them requires and changes, so that invariants are shown happening by
happening. -/

inductive Happening where
  | departed (agent : AgentId) (link : LinkId)
  | skipped (agent : AgentId)
  /-- There was no room on the first link; the agent waits. -/
  | turnedAway (agent : AgentId) (link : LinkId)
  /-- There was no room on the first link for too long. -/
  | gaveUp (agent : AgentId) (link : LinkId)
  | transferred (agent : AgentId) (source target : LinkId)
  | arrived (agent : AgentId) (link : LinkId)
  /-- The vehicle was held up on its link for too long. -/
  | removed (agent : AgentId) (link : LinkId)
  | heldUp (agent : AgentId) (link : LinkId)
deriving DecidableEq

namespace Happening

def agent : Happening → AgentId
  | departed agent _ | skipped agent | turnedAway agent _ | gaveUp agent _
  | transferred agent _ _ | arrived agent _ | removed agent _ | heldUp agent _ => agent

/-- What is heard of a happening. -/
def events (now : Tick) : Happening → List Event
  | departed agent link =>
      [⟨now, .departed, agent, link⟩, ⟨now, .linkEntered, agent, link⟩]
  | transferred agent source target =>
      [⟨now, .linkLeft, agent, source⟩, ⟨now, .linkEntered, agent, target⟩]
  | arrived agent link => [⟨now, .linkLeft, agent, link⟩, ⟨now, .arrived, agent, link⟩]
  | gaveUp agent link | removed agent link => [⟨now, .stuck, agent, link⟩]
  | skipped _ | turnedAway _ _ | heldUp _ _ => []

def ofMove : Move → Happening
  | .transfer source agent target => transferred agent source target
  | .arrive source agent => arrived agent source
  | .stuck source agent => removed agent source

def ofMark (entry : LinkId × AgentId) : Happening := heldUp entry.2 entry.1

/-- The due agent and what became of its departure. -/
def departure? : Happening → Option (AgentId × DepartureOutcome)
  | departed agent _ => some (agent, .departed)
  | skipped agent => some (agent, .skipped)
  | turnedAway agent _ => some (agent, .turnedAway)
  | gaveUp agent _ => some (agent, .gaveUp)
  | _ => none

end Happening

namespace Traffic

variable {α : Type} {traffic traffic' : Traffic α}

def after (traffic : Traffic α) (now : Tick) (happening : Happening) (roads : Roads α)
    (population : Population) : Traffic α where
  roads := roads
  population := population
  events := (happening.events now).foldl Array.push traffic.events

@[simp] theorem after_events (traffic : Traffic α) (now : Tick) (happening : Happening)
    (roads : Roads α) (population : Population) :
    (traffic.after now happening roads population).events.toList =
      traffic.events.toList ++ happening.events now := by
  simp [after]

theorem orStop_eq_ok {β : Type} {traffic : Traffic α} {result : Except (RoadError α) β}
    {value : β} : traffic.orStop result = .ok value ↔ result = .ok value := by
  simp [orStop]

theorem act_eq_ok {agent : AgentId} {action : TripAction} :
    traffic.act agent action = .ok traffic' ↔
      ∃ member trip, traffic.population.get? agent = some member ∧
        member.trip.act? action = some trip ∧
        traffic' = { traffic with
          population := traffic.population.set agent { member with trip } } := by
  simp only [act, setAgent, Attempt.bind_eq_ok, orStop_eq_ok, Attempt.mapError_eq_ok,
    Population.acting_eq_ok, Attempt.pure_eq_ok]
  constructor
  · rintro ⟨_, ⟨member, trip, found, acts, rfl⟩, rfl⟩
    exact ⟨member, trip, found, acts, rfl⟩
  · rintro ⟨member, trip, found, acts, rfl⟩
    exact ⟨_, ⟨member, trip, found, acts, rfl⟩, rfl⟩

theorem cause_of_act {id : AgentId} {action : TripAction}
    {stopped : Interrupted (RoadError α) (Traffic α)}
    (failed : traffic.act id action = .error stopped) : stopped.cause.isCapacity = false := by
  simp only [act, orStop, Attempt.bind_eq_error, Attempt.mapError_eq_error, Attempt.pure_ne_error,
    and_false, exists_false, or_false] at failed
  obtain ⟨_, ⟨cause, -, rfl⟩, rfl⟩ := failed
  rfl

theorem turnAway_eq_ok {now : Tick} {id : AgentId} {link : LinkId}
    {outcome : DepartureOutcome} :
    traffic.turnAway now id link = .ok (outcome, traffic') ↔
      (traffic.hasWaited id now = false ∧ outcome = .turnedAway ∧ traffic' = traffic) ∨
      (traffic.hasWaited id now = true ∧ outcome = .gaveUp ∧
        ∃ agent trip, traffic.population.get? id = some agent ∧
          agent.trip.act? .abort = some trip ∧
          traffic' = emit { traffic with
            population := traffic.population.set id { agent with trip } } now .stuck id link) := by
  unfold turnAway
  cases traffic.hasWaited id now with
  | false =>
      simp only [Bool.false_eq_true, if_false, Attempt.pure_eq_ok, Prod.mk.injEq, true_and,
        false_and, or_false]
      constructor
      · rintro ⟨rfl, rfl⟩
        exact ⟨rfl, rfl⟩
      · rintro ⟨rfl, rfl⟩
        exact ⟨rfl, rfl⟩
  | true =>
      simp only [if_true, Attempt.bind_eq_ok, act_eq_ok, Attempt.pure_eq_ok, Prod.mk.injEq,
        Bool.true_eq_false, false_and, true_and, false_or]
      constructor
      · rintro ⟨_, ⟨agent, trip, found, acts, rfl⟩, rfl, rfl⟩
        exact ⟨rfl, agent, trip, found, acts, rfl⟩
      · rintro ⟨rfl, agent, trip, found, acts, rfl⟩
        exact ⟨_, ⟨agent, trip, found, acts, rfl⟩, rfl, rfl⟩

variable [Quantity α]

inductive Step (table : ModeTable α) (context : RouteContext) (traffic : Traffic α) :
    Happening → Traffic α → Prop where
  | departed {id : AgentId} {link : LinkId} {agent : Agent} {waiting trip : Trip}
      {queue : LinkQueue α} {vehicle : Vehicle α} {seeping : Bool} {room : Room α}
      (found : traffic.population.get? id = some agent)
      (departs : agent.driver.departs context = true)
      (first : agent.driver.firstLink? id context = some link)
      (waits : agent.trip.act? (.wait context.now) = some waiting)
      (present : traffic.roads.queue? link = some queue)
      (built : Vehicle.new? table id agent.mode = some vehicle)
      (taken : queue.room.take? vehicle.pcu (traffic.roads.seeps agent.mode) =
        some (seeping, room))
      (acts : waiting.act? (.depart link) = some trip)
      (dates : queue.Dates vehicle context.now) :
      Step table context traffic (.departed id link)
        (traffic.after context.now (.departed id link)
          (traffic.roads.setQueue link
            (queue.holding (queue.stamped vehicle context.now seeping)))
          (traffic.population.set id { agent with trip }))
  | skipped {id : AgentId} {agent : Agent} {trip : Trip}
      (found : traffic.population.get? id = some agent)
      (stays : agent.driver.departs context = false)
      (acts : agent.trip.act? .skip = some trip) :
      Step table context traffic (.skipped id)
        (traffic.after context.now (.skipped id) traffic.roads
          (traffic.population.set id { agent with trip }))
  | turnedAway {id : AgentId} {link : LinkId} {agent : Agent} {waiting : Trip}
      {queue : LinkQueue α} {vehicle : Vehicle α}
      (found : traffic.population.get? id = some agent)
      (departs : agent.driver.departs context = true)
      (first : agent.driver.firstLink? id context = some link)
      (waits : agent.trip.act? (.wait context.now) = some waiting)
      (present : traffic.roads.queue? link = some queue)
      (built : Vehicle.new? table id agent.mode = some vehicle)
      (full : queue.room.take? vehicle.pcu (traffic.roads.seeps agent.mode) = none)
      (patient : hasWaited
        { traffic with
          population := traffic.population.set id { agent with trip := waiting } }
        id context.now = false) :
      Step table context traffic (.turnedAway id link)
        (traffic.after context.now (.turnedAway id link) traffic.roads
          (traffic.population.set id { agent with trip := waiting }))
  | gaveUp {id : AgentId} {link : LinkId} {agent : Agent} {waiting trip : Trip}
      {queue : LinkQueue α} {vehicle : Vehicle α}
      (found : traffic.population.get? id = some agent)
      (departs : agent.driver.departs context = true)
      (first : agent.driver.firstLink? id context = some link)
      (waits : agent.trip.act? (.wait context.now) = some waiting)
      (present : traffic.roads.queue? link = some queue)
      (built : Vehicle.new? table id agent.mode = some vehicle)
      (full : queue.room.take? vehicle.pcu (traffic.roads.seeps agent.mode) = none)
      (impatient : hasWaited
        { traffic with
          population := traffic.population.set id { agent with trip := waiting } }
        id context.now = true)
      (acts : waiting.act? .abort = some trip) :
      Step table context traffic (.gaveUp id link)
        (traffic.after context.now (.gaveUp id link) traffic.roads
          (traffic.population.set id { agent with trip }))
  | transferred {id : AgentId} {source target : LinkId} {agent : Agent} {trip : Trip}
      {queue next : LinkQueue α} {vehicle : Vehicle α} {seeping : Bool} {room : Room α}
      (present : traffic.roads.queue? source = some queue)
      (aboard : queue.vehicles.find? (·.agent == id) = some vehicle)
      (reached : (traffic.roads.setQueue source (queue.releasing vehicle true)).queue?
        target = some next)
      (taken : next.room.take? vehicle.pcu (traffic.roads.seeps vehicle.mode) =
        some (seeping, room))
      (found : traffic.population.get? id = some agent)
      (acts : agent.trip.act? (.advance target) = some trip)
      (dates : next.Dates vehicle context.now) :
      Step table context traffic (.transferred id source target)
        (traffic.after context.now (.transferred id source target)
          ((traffic.roads.setQueue source (queue.releasing vehicle true)).setQueue target
            (next.holding (next.stamped vehicle context.now seeping)))
          (traffic.population.set id { agent with trip }))
  | arrived {id : AgentId} {link : LinkId} {agent : Agent} {arriving trip : Trip}
      {queue : LinkQueue α} {vehicle : Vehicle α}
      (present : traffic.roads.queue? link = some queue)
      (aboard : queue.vehicles.find? (·.agent == id) = some vehicle)
      (found : traffic.population.get? id = some agent)
      (acts : agent.trip.act? .arrive = some arriving)
      (completes : arriving.act? .complete = some trip) :
      Step table context traffic (.arrived id link)
        (traffic.after context.now (.arrived id link)
          (traffic.roads.setQueue link (queue.releasing vehicle true))
          (traffic.population.set id { agent with trip }))
  | removed {id : AgentId} {link : LinkId} {agent : Agent} {trip : Trip}
      {queue : LinkQueue α} {vehicle : Vehicle α}
      (present : traffic.roads.queue? link = some queue)
      (aboard : queue.vehicles.find? (·.agent == id) = some vehicle)
      (found : traffic.population.get? id = some agent)
      (acts : agent.trip.act? .abort = some trip) :
      Step table context traffic (.removed id link)
        (traffic.after context.now (.removed id link)
          (traffic.roads.setQueue link (queue.releasing vehicle false))
          (traffic.population.set id { agent with trip }))
  | heldUp {id : AgentId} {link : LinkId} {queue : LinkQueue α}
      (present : traffic.roads.queue? link = some queue) :
      Step table context traffic (.heldUp id link)
        (traffic.after context.now (.heldUp id link)
          (traffic.roads.setQueue link (queue.markBlocked id context.now))
          traffic.population)

theorem takeOff_eq_ok {link : LinkId} {agent : AgentId} {movesOn : Bool}
    {vehicle : Vehicle α} :
    traffic.takeOff link agent movesOn = .ok (vehicle, traffic') ↔
      ∃ queue, traffic.roads.queue? link = some queue ∧
        queue.vehicles.find? (·.agent == agent) = some vehicle ∧
        traffic' = traffic.setQueue link (queue.releasing vehicle movesOn) := by
  simp only [takeOff, Roads.queue, Attempt.bind_eq_ok, orStop_eq_ok, Attempt.elim_eq_ok,
    Attempt.pure_eq_ok, Attempt.mapError_eq_ok, Prod.exists, LinkQueue.take_eq_ok,
    Prod.mk.injEq]
  constructor
  · rintro ⟨queue, present, _, _, ⟨found, rfl⟩, rfl, rfl⟩
    exact ⟨queue, present, found, rfl⟩
  · rintro ⟨queue, present, found, rfl⟩
    exact ⟨queue, present, vehicle, _, ⟨found, rfl⟩, rfl, rfl⟩

theorem putOn_eq_ok {link : LinkId} {vehicle : Vehicle α} {now : Tick} :
    traffic.putOn link vehicle now = .ok traffic' ↔
      ∃ queue seeping room, traffic.roads.queue? link = some queue ∧
        queue.room.take? vehicle.pcu (traffic.roads.seeps vehicle.mode) =
          some (seeping, room) ∧
        queue.Dates vehicle now ∧
        traffic' = traffic.setQueue link
          (queue.holding (queue.stamped vehicle now seeping)) := by
  simp only [putOn, Roads.queue, Attempt.bind_eq_ok, orStop_eq_ok, Attempt.elim_eq_ok,
    Attempt.pure_eq_ok, Attempt.mapError_eq_ok, Prod.exists, LinkQueue.accept_eq_ok]
  constructor
  · rintro ⟨queue, present, _, _, ⟨seeping, room, taken, dates, rfl, rfl⟩, rfl⟩
    exact ⟨queue, seeping, room, present, taken, dates, rfl⟩
  · rintro ⟨queue, seeping, room, present, taken, dates, rfl⟩
    exact ⟨queue, present, _, _, ⟨seeping, room, taken, dates, rfl, rfl⟩, rfl⟩

variable {table : ModeTable α} {context : RouteContext}

/-- A movement is carried out exactly as its happening says. -/
theorem move_eq_ok {move : Move} :
    Traffic.move context.now traffic move = .ok traffic' ↔
      Step table context traffic (.ofMove move) traffic' := by
  cases move with
  | transfer source id target =>
      simp only [Traffic.move, Attempt.bind_eq_ok, Attempt.pure_eq_ok, Prod.exists,
        takeOff_eq_ok, putOn_eq_ok, act_eq_ok]
      constructor
      · rintro ⟨vehicle, _, ⟨queue, present, aboard, rfl⟩, _,
          ⟨next, seeping, room, reached, taken, dates, rfl⟩, _, ⟨agent, trip, found, acts, rfl⟩,
          rfl⟩
        exact Step.transferred present aboard reached taken found acts dates
      · intro step
        cases step with
        | transferred present aboard reached taken found acts dates =>
            exact ⟨_, _, ⟨_, present, aboard, rfl⟩, _, ⟨_, _, _, reached, taken, dates, rfl⟩, _,
              ⟨_, _, found, acts, rfl⟩, rfl⟩
  | arrive source id =>
      simp only [Traffic.move, Attempt.bind_eq_ok, Attempt.pure_eq_ok, Prod.exists,
        takeOff_eq_ok, act_eq_ok]
      constructor
      · rintro ⟨vehicle, _, ⟨queue, present, aboard, rfl⟩, _,
          ⟨agent, arriving, found, acts, rfl⟩, _, ⟨again, trip, refound, completes, rfl⟩, rfl⟩
        rw [Population.get?_set_self found] at refound
        cases refound
        rw [Population.set_set]
        exact @Step.arrived _ _ _ _ _ _ _ agent _ _ _ _ present aboard found acts completes
      · intro step
        cases step with
        | arrived present aboard found acts completes =>
            exact ⟨_, _, ⟨_, present, aboard, rfl⟩, _, ⟨_, _, found, acts, rfl⟩, _,
              ⟨_, _, Population.get?_set_self found _, completes, rfl⟩, by
                rw [Population.set_set]
                rfl⟩
  | stuck source id =>
      simp only [Traffic.move, Attempt.bind_eq_ok, Attempt.pure_eq_ok, Prod.exists,
        takeOff_eq_ok, act_eq_ok]
      constructor
      · rintro ⟨vehicle, _, ⟨queue, present, aboard, rfl⟩, _,
          ⟨agent, trip, found, acts, rfl⟩, rfl⟩
        exact Step.removed present aboard found acts
      · intro step
        cases step with
        | removed present aboard found acts =>
            exact ⟨_, _, ⟨_, present, aboard, rfl⟩, _, ⟨_, _, found, acts, rfl⟩, rfl⟩

theorem mark_eq_ok {entry : LinkId × AgentId} :
    Traffic.mark context.now traffic entry = .ok traffic' ↔
      Step table context traffic (.ofMark entry) traffic' := by
  simp only [Happening.ofMark, Traffic.mark, Roads.queue, Attempt.bind_eq_ok, orStop_eq_ok,
    Attempt.elim_eq_ok, Attempt.pure_eq_ok]
  constructor
  · rintro ⟨queue, present, rfl⟩
    exact Step.heldUp present
  · intro step
    cases step with
    | heldUp present => exact ⟨_, present, rfl⟩

theorem board_eq_ok {now exitTick : Tick} {id : AgentId} {link : LinkId} :
    Traffic.board table now traffic id link = .ok (exitTick, traffic') ↔
      ∃ agent queue vehicle seeping room trip,
        traffic.population.get? id = some agent ∧
        traffic.roads.queue? link = some queue ∧
        Vehicle.new? table id agent.mode = some vehicle ∧
        queue.room.take? vehicle.pcu (traffic.roads.seeps agent.mode) =
          some (seeping, room) ∧
        queue.Dates vehicle now ∧
        agent.trip.act? (.depart link) = some trip ∧
        exitTick = now + queue.travelTicks vehicle.maxSpeed ∧
        traffic' = { traffic with
          roads := traffic.roads.setQueue link
            (queue.holding (queue.stamped vehicle now seeping))
          population := traffic.population.set id { agent with trip } } := by
  simp only [Traffic.board, Roads.insert, Attempt.bind_eq_ok, Attempt.pure_eq_ok,
    orStop_eq_ok, act_eq_ok, Attempt.mapError_eq_ok, Population.find_eq_ok,
    Attempt.elim_eq_ok, LinkQueue.accept_eq_ok, Prod.exists, Prod.mk.injEq]
  constructor
  · rintro ⟨agent, found, _, _, ⟨queue, present, vehicle, built, _, _,
      ⟨seeping, room, taken, dates, rfl, rfl⟩, rfl, rfl⟩, _, ⟨again, trip, refound, acts, rfl⟩,
      rfl, rfl⟩
    cases found.symm.trans refound
    exact ⟨agent, queue, vehicle, seeping, room, trip, found, present, built, taken, dates, acts,
      rfl, rfl⟩
  · rintro ⟨agent, queue, vehicle, seeping, room, trip, found, present, built, taken, dates, acts,
      rfl, rfl⟩
    exact ⟨agent, found, _, _, ⟨queue, present, vehicle, built, _, _,
      ⟨seeping, room, taken, dates, rfl, rfl⟩, rfl, rfl⟩, _, ⟨agent, trip, found, acts, rfl⟩,
      rfl, rfl⟩

/-- There is no room for a departing vehicle exactly if it fits nowhere on its first link, and
then nothing has changed. -/
theorem board_eq_full {now : Tick} {id : AgentId} {link : LinkId}
    {stopped : Interrupted (RoadError α) (Traffic α)} :
    (Traffic.board table now traffic id link = .error stopped ∧ stopped.cause.isCapacity = true) ↔
      ∃ agent queue vehicle,
        traffic.population.get? id = some agent ∧
        traffic.roads.queue? link = some queue ∧
        Vehicle.new? table id agent.mode = some vehicle ∧
        queue.room.take? vehicle.pcu (traffic.roads.seeps agent.mode) = none ∧
        stopped = ⟨.capacityExceeded queue.link vehicle.pcu queue.room.regular, traffic⟩ := by
  constructor
  · rintro ⟨failed, full⟩
    simp only [Traffic.board, Roads.insert, Attempt.bind_eq_error, Attempt.mapError_eq_error,
      Attempt.mapError_eq_ok, orStop, Population.find_eq_ok, Attempt.elim_eq_error,
      Attempt.elim_eq_ok, Attempt.pure_ne_error, and_false, exists_false, or_false,
      LinkQueue.accept_eq_error] at failed
    obtain ⟨_, ⟨_, -, rfl⟩, rfl⟩ | ⟨agent, found, ⟨_, failed, rfl⟩ | ⟨_, -, failed⟩⟩ := failed
    · cases full
    · obtain ⟨-, rfl⟩ | ⟨queue, present, ⟨-, rfl⟩ | ⟨vehicle, built, _, refused, rfl⟩⟩ := failed
      · cases full
      · cases full
      obtain ⟨taken, rfl⟩ | ⟨_, _, -, -, rfl⟩ := refused
      · refine ⟨agent, queue, vehicle, found, present, built, taken, ?_⟩
        simp only [Interrupted.within, Roads.setQueue_self present, id_eq]
      · cases full
    · rw [cause_of_act failed] at full
      cases full
  · rintro ⟨agent, queue, vehicle, found, present, built, taken, rfl⟩
    have refused : queue.accept vehicle now (traffic.roads.seeps agent.mode) = .error
        ⟨.capacityExceeded queue.link vehicle.pcu queue.room.regular, queue⟩ :=
      LinkQueue.accept_eq_error.mpr (.inl ⟨taken, rfl⟩)
    refine ⟨?_, rfl⟩
    simp only [Traffic.board, Roads.insert, orStop, Population.find_eq_ok.mpr found, present,
      built, refused, Except.mapError, Interrupted.within, Roads.setQueue_self present,
      Option.elim_some, id_eq, bind, Except.bind]

theorem board_of_not_dates {now : Tick} {id : AgentId} {link : LinkId} {agent : Agent}
    {queue : LinkQueue α} {vehicle : Vehicle α} {seeping : Bool} {room : Room α}
    (found : traffic.population.get? id = some agent)
    (present : traffic.roads.queue? link = some queue)
    (built : Vehicle.new? table id agent.mode = some vehicle)
    (taken : queue.room.take? vehicle.pcu (traffic.roads.seeps agent.mode) = some (seeping, room))
    (late : ¬queue.Dates vehicle now) :
    ∃ stopped, Traffic.board table now traffic id link = .error stopped ∧
      stopped.cause.Uncounted := by
  have refused : queue.accept vehicle now (traffic.roads.seeps agent.mode) = .error
      ⟨.noSuchTick (now + queue.travelTicks vehicle.maxSpeed), queue.charge seeping vehicle.pcu⟩ :=
    LinkQueue.accept_eq_error.mpr (.inr ⟨seeping, room, taken, late, rfl⟩)
  refine ⟨⟨_, { traffic with
    roads := traffic.roads.setQueue link (queue.charge seeping vehicle.pcu) }⟩, ?_, _, rfl,
    LinkQueue.not_dates.mp late⟩
  simp only [Traffic.board, Roads.insert, orStop, Population.find_eq_ok.mpr found, present,
    built, refused, Except.mapError, Interrupted.within, Option.elim_some, id_eq, bind,
    Except.bind]

theorem depart_of_waits {id : AgentId} {link : LinkId} {agent : Agent} {waiting : Trip}
    (found : traffic.population.get? id = some agent)
    (departs : agent.driver.departs context = true)
    (first : agent.driver.firstLink? id context = some link)
    (waits : agent.trip.act? (.wait context.now) = some waiting) :
    let begun := { traffic with
      population := traffic.population.set id { agent with trip := waiting } }
    Traffic.depart table context traffic id =
      match begun.board table context.now id link with
      | .ok (_, traffic) => .ok (.departed,
          (traffic.emit context.now .departed id link).emit context.now .linkEntered id link)
      | .error stopped =>
          if stopped.cause.isCapacity then stopped.reached.turnAway context.now id link
          else .error stopped := by
  have begins : traffic.act id (.wait context.now) = .ok { traffic with
      population := traffic.population.set id { agent with trip := waiting } } :=
    act_eq_ok.mpr ⟨agent, waiting, found, waits, rfl⟩
  simp only [Traffic.depart, orStop, Population.find_eq_ok.mpr found, departs, begins, first,
    Except.mapError, Option.elim_some, Bool.not_true, Bool.false_eq_true, if_false, bind,
    Except.bind]
  rfl

/-- A due agent departs, or not, exactly as its happening says. -/
theorem depart_eq_ok {id : AgentId} {outcome : DepartureOutcome} :
    Traffic.depart table context traffic id = .ok (outcome, traffic') ↔
      ∃ happening, happening.departure? = some (id, outcome) ∧
        Step table context traffic happening traffic' := by
  constructor
  · intro departed
    have ran := departed
    simp only [Traffic.depart, Attempt.bind_eq_ok, orStop_eq_ok, Attempt.mapError_eq_ok,
      Population.find_eq_ok] at departed
    obtain ⟨agent, found, departed⟩ := departed
    split at departed
    · rename_i stays
      simp only [Attempt.bind_eq_ok, act_eq_ok, Attempt.pure_eq_ok, Prod.mk.injEq] at departed
      obtain ⟨_, ⟨again, trip, refound, acts, rfl⟩, rfl, rfl⟩ := departed
      cases found.symm.trans refound
      exact ⟨.skipped id, rfl, .skipped found (by simpa using stays) acts⟩
    · rename_i departs
      have departs : agent.driver.departs context = true := by simpa using departs
      simp only [Attempt.bind_eq_ok, act_eq_ok, orStop_eq_ok, Attempt.elim_eq_ok] at departed
      obtain ⟨_, ⟨again, waiting, refound, waits, rfl⟩, link, first, -⟩ := departed
      cases found.symm.trans refound
      have member := Population.get?_set_self found { agent with trip := waiting }
      rw [depart_of_waits found departs first waits] at ran
      split at ran
      · rename_i exitTick entered boarded
        obtain ⟨again, queue, vehicle, seeping, room, trip, refound, present, built, taken, dates,
          acts, -, rfl⟩ := board_eq_ok.mp boarded
        cases member.symm.trans refound
        cases ran
        rw [Population.set_set]
        have step := Step.departed found departs first waits present built taken acts dates
        exact ⟨.departed id link, rfl, step⟩
      · rename_i stopped boarded
        split at ran
        · rename_i full
          obtain ⟨again, queue, vehicle, refound, present, built, full, rfl⟩ :=
            board_eq_full.mp ⟨boarded, full⟩
          cases member.symm.trans refound
          obtain ⟨patient, rfl, rfl⟩ | ⟨impatient, rfl, again, trip, refound, acts, rfl⟩ :=
            turnAway_eq_ok.mp ran
          · exact ⟨.turnedAway id link, rfl,
              .turnedAway found departs first waits present built full patient⟩
          · cases member.symm.trans refound
            rw [Population.set_set]
            have step := Step.gaveUp found departs first waits present built full impatient acts
            exact ⟨.gaveUp id link, rfl, step⟩
        · cases ran
  · rintro ⟨happening, kind, step⟩
    cases step with
    | @departed _ link agent waiting _ _ _ _ _ found departs first waits present built taken acts
        dates =>
        cases kind
        have boarded : board table context.now { traffic with
            population := traffic.population.set id { agent with trip := waiting } } id link =
              .ok (_, _) :=
          board_eq_ok.mpr ⟨_, _, _, _, _, _, Population.get?_set_self found _, present, built,
            taken, dates, acts, rfl, rfl⟩
        rw [depart_of_waits found departs first waits, boarded, Population.set_set]
        rfl
    | skipped found stays acts =>
        cases kind
        simp only [Traffic.depart, Attempt.bind_eq_ok, orStop_eq_ok, Attempt.mapError_eq_ok,
          Population.find_eq_ok]
        refine ⟨_, found, ?_⟩
        rw [if_pos (by simp [stays]), Attempt.bind_eq_ok]
        exact ⟨_, act_eq_ok.mpr ⟨_, _, found, acts, rfl⟩, rfl⟩
    | @turnedAway _ link agent waiting _ _ found departs first waits present built full patient =>
        cases kind
        have turned : board table context.now { traffic with
            population := traffic.population.set id { agent with trip := waiting } } id link =
              .error _ ∧ _ :=
          board_eq_full.mpr ⟨_, _, _, Population.get?_set_self found _, present, built, full, rfl⟩
        rw [depart_of_waits found departs first waits, turned.1]
        exact turnAway_eq_ok.mpr (.inl ⟨patient, rfl, rfl⟩)
    | @gaveUp _ link agent waiting _ _ _ found departs first waits present built full impatient
        acts =>
        cases kind
        have turned : board table context.now { traffic with
            population := traffic.population.set id { agent with trip := waiting } } id link =
              .error _ ∧ _ :=
          board_eq_full.mpr ⟨_, _, _, Population.get?_set_self found _, present, built, full, rfl⟩
        rw [depart_of_waits found departs first waits, turned.1]
        refine turnAway_eq_ok.mpr (.inr ⟨impatient, rfl, _, _,
          Population.get?_set_self found _, acts, ?_⟩)
        rw [Population.set_set]
        rfl
    | _ => cases kind

end Traffic

end MixedTraffic

import Mathlib.Data.List.Chain
import MixedTraffic.Proofs.Route
import MixedTraffic.Proofs.Run.Timetable

namespace MixedTraffic

/-! A journey follows the network, its driver and the clock: its links join, they are those
that the driver chose, and each takes the time that it takes. -/

def Ending.time : Ending → Tick
  | arrived time | removed time => time

namespace Journey

structure Itinerary {α : Type} (network : Network α) (takes : Leg → Nat → Prop)
    (agent : AgentId) (driver : Driver) (first : Leg) (later : List Leg)
    (ending : Option Ending) : Prop where
  joined : (first :: later).IsChain fun leg next =>
    network.isSuccessor? leg.link next.link = some true
  stays : (first :: later).IsChain fun leg next =>
    ∃ ticks, takes leg ticks ∧ leg.entered + ticks ≤ next.entered
  chosen : ∀ {step leg}, (first :: later)[step]? = some leg →
    driver.Reaches agent leg.link step
  ends : ∀ last ∈ ending, ∃ ticks, takes (final first later) ticks ∧
    (final first later).entered + ticks ≤ last.time
  arrives : ∀ {time}, ending = some (.arrived time) →
    ∃ context, driver.nextLink? agent (final first later).link later.length context = none

/-- A journey that keeps to its network, its driver and the times that links take. -/
def Lawful {α : Type} (network : Network α) (takes : Leg → Nat → Prop) (agent : AgentId)
    (driver : Driver) : Journey → Prop
  | unheard => True
  | refused link _ => driver.Reaches agent link 0
  | along first later ending => Itinerary network takes agent driver first later ending

section Laws

variable {α : Type} {network : Network α} {takes takes' : Leg → Nat → Prop}
  {agent : AgentId} {driver : Driver} {first leg : Leg} {later : List Leg}
  {ending : Option Ending}

theorem getLast?_eq_final (first : Leg) (later : List Leg) :
    (first :: later).getLast? = some (final first later) := by
  rw [List.getLast?_cons, final, List.getLastD_eq_getLast?]

theorem getElem?_length (first : Leg) (later : List Leg) :
    (first :: later)[later.length]? = some (final first later) := by
  rw [← getLast?_eq_final, List.getLast?_eq_getElem?]
  rfl

namespace Itinerary

theorem single (reached : driver.Reaches agent first.link 0) :
    Itinerary network takes agent driver first [] none where
  joined := .singleton _
  stays := .singleton _
  chosen := by
    intro step leg found
    obtain ⟨rfl, rfl⟩ : step = 0 ∧ first = leg := by
      simpa [List.getElem?_cons, List.getElem?_nil] using found
    exact reached
  ends := by simp
  arrives := by simp

theorem concat (itinerary : Itinerary network takes agent driver first later none)
    (joined : network.isSuccessor? (final first later).link leg.link = some true)
    (stays : ∃ ticks, takes (final first later) ticks ∧
      (final first later).entered + ticks ≤ leg.entered)
    (reached : driver.Reaches agent leg.link (later.length + 1)) :
    Itinerary network takes agent driver first (later ++ [leg]) none where
  joined := by
    rw [← List.cons_append]
    refine itinerary.joined.append (.singleton _) ?_
    rw [getLast?_eq_final]
    simpa using joined
  stays := by
    rw [← List.cons_append]
    refine itinerary.stays.append (.singleton _) ?_
    rw [getLast?_eq_final]
    simpa using stays
  chosen := by
    intro step other found
    rw [← List.cons_append, List.getElem?_append] at found
    split at found
    · exact itinerary.chosen found
    · obtain ⟨rfl, rfl⟩ : step = later.length + 1 ∧ leg = other := by
        rename_i beyond
        rw [List.length_cons] at beyond found
        rw [List.getElem?_singleton] at found
        split at found
        · exact ⟨by omega, Option.some.inj found⟩
        · cases found
      exact reached
  ends := by simp
  arrives := by simp

theorem finish (itinerary : Itinerary network takes agent driver first later none)
    {last : Ending} (stays : ∃ ticks, takes (final first later) ticks ∧
      (final first later).entered + ticks ≤ last.time)
    (arrives : ∀ {time}, last = .arrived time →
      ∃ context, driver.nextLink? agent (final first later).link later.length context = none) :
    Itinerary network takes agent driver first later (some last) where
  joined := itinerary.joined
  stays := itinerary.stays
  chosen := itinerary.chosen
  ends := by
    intro other same
    cases same
    exact stays
  arrives same := arrives (Option.some.inj same)

theorem prefix_of_fixed {route : List LinkId}
    (itinerary : Itinerary network takes agent (.fixed route) first later ending) :
    (first :: later).map (·.link) <+: route := by
  rw [List.prefix_iff_getElem?]
  intro step bound
  rw [List.length_map] at bound
  have reaches := itinerary.chosen (List.getElem?_eq_getElem bound)
  rw [reaches.of_fixed, List.getElem_map]

theorem eq_of_fixed {route : List LinkId} {time : Tick}
    (itinerary : Itinerary network takes agent (.fixed route) first later
      (some (.arrived time))) :
    (first :: later).map (·.link) = route := by
  have part := itinerary.prefix_of_fixed
  obtain ⟨context, ended⟩ := itinerary.arrives rfl
  have length : route.length ≤ later.length + 1 := List.getElem?_eq_none_iff.mp ended
  have bound := part.length_le
  rw [List.length_map, List.length_cons] at bound
  exact part.eq_of_length (by simp only [List.length_map, List.length_cons]; omega)

theorem imp (itinerary : Itinerary network takes agent driver first later ending)
    (more : ∀ leg ticks, takes leg ticks → takes' leg ticks) :
    Itinerary network takes' agent driver first later ending where
  joined := itinerary.joined
  stays := itinerary.stays.imp fun leg next stay => by
    obtain ⟨ticks, takes, enough⟩ := stay
    exact ⟨ticks, more leg ticks takes, enough⟩
  chosen := itinerary.chosen
  ends := by
    intro last same
    obtain ⟨ticks, takes, enough⟩ := itinerary.ends last same
    exact ⟨ticks, more _ ticks takes, enough⟩
  arrives := itinerary.arrives

end Itinerary

theorem Lawful.imp {journey : Journey} (lawful : journey.Lawful network takes agent driver)
    (more : ∀ leg ticks, takes leg ticks → takes' leg ticks) :
    journey.Lawful network takes' agent driver := by
  cases journey with
  | unheard => trivial
  | refused link time => exact lawful
  | along first later ending => exact Itinerary.imp lawful more

end Laws

end Journey

variable {α : Type}

namespace Traffic

variable {network first : Network α} {context : RouteContext}
  {traffic traffic' before : Traffic α} {happening : Happening}

/-- That a move has grounds in the present traffic. -/
def Grounded (traffic : Traffic α) (network : Network α) (context : RouteContext)
    (happening : Happening) : Prop :=
  ∀ {move}, happening = .ofMove move →
    ∃ vehicle agent, traffic.roads.Grounds network traffic.population context move vehicle agent

theorem Grounded.of_untouched (grounded : before.Grounded network context happening)
    (untouched : ∀ id ∈ happening.touched?, traffic.Untouched before id) :
    traffic.Grounded network context happening := by
  intro move same
  obtain ⟨vehicle, agent, grounds⟩ := grounded same
  have kept := untouched move.agent (by rw [same, Happening.touched?_ofMove]; rfl)
  exact ⟨vehicle, agent, (kept.vehicle grounds.own).mpr grounds.aboard, grounds.own,
    grounds.ready, kept.agent.trans grounds.found, grounds.follows, grounds.joined⟩

theorem grounded_of_departure (departure : happening.departure? ≠ none) :
    traffic.Grounded network context happening := by
  intro move same
  subst same
  cases move <;> exact absurd rfl departure

variable [Quantity α] {table : ModeTable α} {tickSecs : Nat} {history : List (Interval α)}
  {pending : List AgentId} {heard : List Event} {journeys : AgentId → Journey}

/-- All that is recorded of the traffic between two happenings. -/
structure Chronicled (traffic : Traffic α) (first : Network α) (tickSecs : Nat)
    (table : ModeTable α) (history : List (Interval α)) (pending : List AgentId)
    (heard : List Event) (journeys : AgentId → Journey) : Prop where
  placed : traffic.Placed pending
  recorded : Recorded heard traffic.roads traffic.population journeys
  timed : traffic.roads.Timed tickSecs table history traffic.population
  lawful : ∀ {id agent}, traffic.population.get? id = some agent →
    (journeys id).Lawful first (Leg.Takes tickSecs table history agent.mode) id agent.driver

/-- Where a move comes from, its grounds say how long the vehicle has been there. -/
theorem Chronicled.along_of_grounds
    (chronicled : traffic.Chronicled first tickSecs table history pending heard journeys)
    (alike : network.Alike first) {move : Move} {vehicle : Vehicle α} {agent : Agent}
    (grounds : traffic.roads.Grounds network traffic.population context move vehicle agent) :
    ∃ begun later, journeys move.agent = .along begun later none ∧
      Journey.Itinerary first (Leg.Takes tickSecs table history agent.mode) move.agent
        agent.driver begun later none ∧
      (∃ ticks, Leg.Takes tickSecs table history agent.mode (Journey.final begun later) ticks ∧
        (Journey.final begun later).entered + ticks ≤ context.now) ∧
      move.Follows (agent.driver.nextLink? move.agent
        (Journey.final begun later).link later.length context) ∧
      ∀ target ∈ move.target?,
        first.isSuccessor? (Journey.final begun later).link target = some true := by
  obtain ⟨begun, later, moving, journey, last, entered⟩ :=
    chronicled.recorded.along chronicled.placed grounds.found grounds.aboard grounds.own
  have itinerary := chronicled.lawful grounds.found
  rw [journey] at itinerary
  obtain ⟨ticks, takes, exit⟩ := chronicled.timed.stays grounds.aboard
  have mode := chronicled.timed.mode grounds.aboard (grounds.own ▸ grounds.found)
  have leg : (⟨move.source, vehicle.entered⟩ : Leg) = Journey.final begun later := by
    rw [← last, entered]
  rw [leg, mode] at takes
  refine ⟨begun, later, journey, itinerary, ⟨ticks, takes, ?_⟩, ?_, ?_⟩
  · have ready := grounds.ready
    rw [exit, entered] at ready
    exact ready
  · have follows := grounds.follows
    rw [moving] at follows
    rw [last]
    exact follows
  · intro target same
    rw [last]
    exact alike.isSuccessor?_iff.mp (grounds.joined target same)

/-- The journey of the agent of a happening stays lawful. -/
theorem Chronicled.lawful_self
    (chronicled : traffic.Chronicled first tickSecs table history pending heard journeys)
    (alike : network.Alike first) (grounded : traffic.Grounded network context happening)
    (step : Step table context traffic happening traffic') {agent : Agent}
    (found : traffic.population.get? happening.agent = some agent) :
    ((journeys happening.agent).after context.now happening).Lawful first
      (Leg.Takes tickSecs table history agent.mode) happening.agent agent.driver := by
  have lawful := chronicled.lawful found
  cases step with
  | departed found' departs chosen =>
      cases found.symm.trans found'
      exact .single (.first departs chosen)
  | gaveUp found' departs chosen =>
      cases found.symm.trans found'
      exact .first departs chosen
  | skipped | turnedAway | heldUp =>
      generalize journeys _ = journey at lawful ⊢
      cases journey <;> exact lawful
  | @transferred id source target =>
      have same : Happening.transferred id source target =
          .ofMove (.transfer source id target) := rfl
      obtain ⟨_, _, grounds⟩ := grounded same
      cases found.symm.trans grounds.found
      obtain ⟨begun, later, journey, itinerary, stays, follows, joined⟩ :=
        chronicled.along_of_grounds alike grounds
      rw [same, Happening.agent_ofMove, journey]
      exact itinerary.concat (joined target rfl) stays
        (.next (itinerary.chosen (Journey.getElem?_length begun later)) follows)
  | @arrived id link =>
      have same : Happening.arrived id link = .ofMove (.arrive link id) := rfl
      obtain ⟨_, _, grounds⟩ := grounded same
      cases found.symm.trans grounds.found
      obtain ⟨begun, later, journey, itinerary, stays, follows, -⟩ :=
        chronicled.along_of_grounds alike grounds
      rw [same, Happening.agent_ofMove, journey]
      exact itinerary.finish stays fun _ => ⟨context, follows⟩
  | @removed id link =>
      have same : Happening.removed id link = .ofMove (.stuck link id) := rfl
      obtain ⟨_, _, grounds⟩ := grounded same
      cases found.symm.trans grounds.found
      obtain ⟨begun, later, journey, itinerary, stays, -⟩ :=
        chronicled.along_of_grounds alike grounds
      rw [same, Happening.agent_ofMove, journey]
      exact itinerary.finish stays (by simp)

theorem Chronicled.step {interval : Interval α}
    (chronicled : traffic.Chronicled first tickSecs table history pending heard journeys)
    (alike : interval.world.network.Alike first)
    (grounded : traffic.Grounded interval.world.network context happening)
    (member : interval ∈ history) (tick : interval.summary.tick = context.now)
    (mirrors : traffic.roads.Mirrors tickSecs interval.world.network)
    (step : Step table context traffic happening traffic') :
    traffic'.Chronicled first tickSecs table history (happening.settle pending)
      (heard ++ happening.events context.now)
      (Journey.tell context.now journeys happening) := by
  refine ⟨chronicled.placed.step step, chronicled.recorded.step chronicled.placed step,
    chronicled.timed.step chronicled.placed.labelled member tick mirrors step, ?_⟩
  intro id agent found
  obtain ⟨old, present, mode, driver, -⟩ :=
    Population.exists_of_unbegun found (step.unbegun id)
  rw [← mode, ← driver]
  by_cases own : id = happening.agent
  · subst own
    rw [Journey.tell, Function.update_self]
    exact chronicled.lawful_self alike grounded step present
  · rw [Journey.tell, Function.update_of_ne own]
    exact chronicled.lawful present

/-- What is recorded of the traffic of an interval, up to some happening of it. -/
def Tells (interval : Interval α) (first : Network α) (tickSecs : Nat) (table : ModeTable α)
    (history : List (Interval α)) (pending : List AgentId) (heard : List Event)
    (journeys : AgentId → Journey) (done : List Happening) (traffic : Traffic α) : Prop :=
  traffic.Chronicled first tickSecs table history
      (done.foldl (fun pending happening => happening.settle pending) pending)
      (heard ++ done.flatMap (·.events interval.summary.tick))
      (done.foldl (Journey.tell interval.summary.tick) journeys) ∧
    traffic.roads.Mirrors tickSecs interval.world.network

theorem Tells.step {interval : Interval α} {done : List Happening}
    (tells : Tells interval first tickSecs table history pending heard journeys done traffic)
    (alike : interval.world.network.Alike first)
    (grounded : traffic.Grounded interval.world.network context happening)
    (member : interval ∈ history) (tick : interval.summary.tick = context.now)
    (step : Step table context traffic happening traffic') :
    Tells interval first tickSecs table history pending heard journeys (done ++ [happening])
      traffic' := by
  obtain ⟨chronicled, mirrors⟩ := tells
  have later := chronicled.step alike grounded member tick mirrors step
  refine ⟨?_, step.mirrors mirrors⟩
  rw [List.foldl_append, List.foldl_append, List.flatMap_append, ← List.append_assoc, tick]
  rw [tick] at later
  simpa using later

end Traffic

variable [Quantity α]

/-- All that is recorded of a run between two intervals. -/
structure World.Chronicled (world : World α) (first : Network α) (tickSecs : Nat)
    (table : ModeTable α) (history : List (Interval α)) (journeys : AgentId → Journey) :
    Prop where
  modes : world.table = table
  placed : world.Placed
  charted : world.Charted first tickSecs
  traffic : Traffic.Chronicled { roads := world.roads, population := world.population } first
    tickSecs table history world.departures.entries (heard history) journeys

namespace World.Chronicled

variable {first : Network α} {tickSecs : Nat} {table : ModeTable α}
  {history : List (Interval α)} {journeys : AgentId → Journey} {world : World α}

/-- The records hold on until all due agents have departed. -/
theorem midway {flowPermanent : Bool} {changed : World α} {departures : List Happening}
    {traffic : Traffic α} {interval : Interval α}
    (chronicled : world.Chronicled first tickSecs table history journeys)
    (made : world.applyChanges = .ok changed)
    (departing : ∀ happening ∈ departures, happening.departure? ≠ none)
    (departed : Traffic.Steps changed.table (changed.context flowPermanent) changed.refilled
      departures traffic)
    (tick : interval.summary.tick = changed.clock.now)
    (network : interval.world.network = changed.network) :
    Traffic.Tells interval first tickSecs changed.table (history ++ [interval])
      world.departures.entries (heard history) journeys departures traffic := by
  have charted := chronicled.charted.changed made
  have like := refilled_like made
  have revises := applyChanges_revises made
  have population : changed.refilled.population = world.population := revises.population
  have member : interval ∈ history ++ [interval] := by simp
  have alike : interval.world.network.Alike first := network ▸ charted.alike
  have before : Traffic.Tells interval first tickSecs table (history ++ [interval])
      world.departures.entries (heard history) journeys [] changed.refilled := by
    obtain ⟨placed, recorded, timed, lawful⟩ := chronicled.traffic
    refine ⟨⟨placed.of_perm (.refl _) like population, ?_, ?_, ?_⟩,
      network ▸ charted.mirrors.refill⟩
    · rw [population, List.flatMap_nil, List.append_nil]
      exact recorded.of_like like
    · rw [population]
      exact timed.append.congr like.fleet
    · intro id agent found
      rw [population] at found
      exact (lawful found).imp fun leg ticks takes => takes.append
  rw [← revises.table.trans chronicled.modes] at before
  refine departed.accumulates _ (fun {done rest happening} _ _ parts tells step => ?_) before
  refine Traffic.Tells.step tells alike ?_ member tick step
  exact Traffic.grounded_of_departure
    (departing happening (parts ▸ List.mem_append_right done List.mem_cons_self))

theorem interval {flowPermanent : Bool} {interval : Interval α}
    (chronicled : world.Chronicled first tickSecs table history journeys)
    (sound : first.Sound) (simulated : world.interval flowPermanent = .ok interval) :
    ∃ journeys, interval.next.Chronicled first tickSecs table (history ++ [interval])
      journeys := by
  obtain ⟨course, follows, rfl⟩ := World.interval_eq_ok.mp simulated
  have charted := chronicled.charted.changed follows.changed
  have member : course.interval ∈ history ++ [course.interval] := by simp
  have modes : course.changed.table = table := follows.revises.table.trans chronicled.modes
  have midway := chronicled.midway follows.changed
    (Happening.departure?_ne_none follows.named) follows.departed
    (rfl : course.interval.summary.tick = _) rfl
  have sound := charted.alike.sound sound
  have distinct := nodup_touched follows.decided sound midway.2 midway.1.placed
  have after := follows.committed.preserves_untouched
    (fun done traffic => Traffic.Tells course.interval first tickSecs course.changed.table
      (history ++ [course.interval]) world.departures.entries (heard history) journeys
      (course.departures ++ done) traffic)
    (fun {done traffic happening _} ordered untouched tells step => by
      rw [← List.append_assoc]
      refine tells.step charted.alike ?_ member rfl step
      refine Traffic.Grounded.of_untouched ?_ untouched
      intro move same
      obtain ⟨id, link, held, -⟩ | ⟨chosen, vehicle, agent, same', grounds⟩ :=
        grounds_of_mem_orders follows.decided sound midway.2 midway.1.placed ordered
      · rw [same] at held
        cases move <;> cases held
      · rw [same] at same'
        have equal : move = chosen := by
          cases move <;> cases chosen <;> cases same' <;> rfl
        exact ⟨vehicle, agent, equal ▸ grounds⟩)
    distinct (by rw [List.append_nil]; exact midway)
  have placed := chronicled.placed.interval simulated
  obtain ⟨-, recorded, timed, lawful⟩ := after.1
  rw [modes] at timed lawful
  refine ⟨_, modes, placed, chronicled.charted.interval simulated, placed.traffic, ?_, timed,
    lawful⟩
  rw [heard_append, heard_singleton, follows.events]
  exact recorded

theorem run {history : List (Interval α)} {world' : World α}
    (chronicled : world.Chronicled first tickSecs table [] journeys) (sound : first.Sound)
    (run : World.Run world history world') :
    ∃ journeys, world'.Chronicled first tickSecs table history journeys := by
  induction run with
  | start => exact ⟨journeys, chronicled⟩
  | step _ simulated ih =>
      obtain ⟨journeys, before⟩ := ih
      exact before.interval sound simulated

theorem of_build {σ : Type} {setup : SimSetup α σ} {start : Sim α σ}
    (built : setup.build = .ok start) (fresh : setup.population.Fresh) :
    start.world.Chronicled setup.network setup.config.tickSecs setup.table []
      fun _ => .unheard := by
  have placed := World.Placed.of_build built fresh
  have charted := World.Charted.of_build built
  have recorded := Recorded.of_build built fresh
  obtain ⟨roads, opened, world⟩ := (SimSetup.build_eq_ok built).world
  have nobody (entry : LinkId × Vehicle α) : entry ∉ start.world.roads.fleet := by
    rw [world, Roads.fleet_of_ofNetwork opened]
    exact List.not_mem_nil
  refine ⟨by rw [world], placed, charted, placed.traffic, recorded, ?_, fun _ => trivial⟩
  exact ⟨fun aboard => absurd aboard (nobody _), fun aboard => absurd aboard (nobody _),
    fun aboard => absurd aboard (nobody _)⟩

end World.Chronicled

end MixedTraffic

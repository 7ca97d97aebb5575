import MixedTraffic.Proofs.Run.Journey
import MixedTraffic.Proofs.Run.Orders

namespace MixedTraffic

variable {α : Type} [Quantity α]

/-! When a vehicle may leave its link: after the time that the link takes at the speeds in
force when the vehicle entered it, whatever they become later. -/

/-- That a vehicle of a mode needs so many intervals for a leg, at the speeds of the interval
in which it entered the link. -/
def Leg.Takes (tickSecs : Nat) (table : ModeTable α) (history : List (Interval α))
    (mode : ModeId) (leg : Leg) (ticks : Nat) : Prop :=
  ∃ interval ∈ history, interval.summary.tick = leg.entered ∧
    ∃ attributes type, interval.world.network.link? leg.link = some attributes ∧
      table.get? mode = some type ∧ ticks = attributes.travelTicks tickSecs type.maxSpeed

namespace Leg.Takes

variable {tickSecs : Nat} {table : ModeTable α} {history later : List (Interval α)}
  {mode : ModeId} {leg : Leg} {ticks : Nat}

theorem pos (takes : leg.Takes tickSecs table history mode ticks) : 0 < ticks := by
  obtain ⟨interval, -, -, attributes, type, -, -, rfl⟩ := takes
  exact attributes.travelTicks_pos tickSecs type.maxSpeed

theorem append (takes : leg.Takes tickSecs table history mode ticks) :
    leg.Takes tickSecs table (history ++ later) mode ticks := by
  obtain ⟨interval, listed, rest⟩ := takes
  exact ⟨interval, List.mem_append_left _ listed, rest⟩

end Leg.Takes

def Agent.unbegun (agent : Agent) : Agent := { agent with trip := {} }

/-- What does not look at the trip of an agent is the same of agents that are alike before it. -/
theorem Agent.map_of_unbegun {β : Type} {agent? agent?' : Option Agent}
    (same : agent?'.map unbegun = agent?.map unbegun) (part : Agent → β)
    (blind : ∀ agent, part agent.unbegun = part agent) : agent?'.map part = agent?.map part := by
  have whole : part ∘ unbegun = part := funext blind
  rw [← whole, ← Option.map_map, same, Option.map_map]

theorem Population.exists_of_unbegun {population population' : Population} {id : AgentId}
    {agent : Agent} (found : population'.get? id = some agent)
    (same : (population'.get? id).map Agent.unbegun = (population.get? id).map Agent.unbegun) :
    ∃ old, population.get? id = some old ∧ old.mode = agent.mode ∧ old.driver = agent.driver ∧
      old.departureSecs = agent.departureSecs := by
  have parts := Agent.map_of_unbegun same
    (fun agent => (agent.mode, agent.driver, agent.departureSecs)) fun _ => rfl
  rw [found, Option.map_some, eq_comm, Option.map_eq_some_iff] at parts
  obtain ⟨old, known, equal⟩ := parts
  exact ⟨old, known, congrArg (·.1) equal, congrArg (·.2.1) equal, congrArg (·.2.2) equal⟩

theorem Population.modes_eq {population population' : Population}
    (same : ∀ id, (population'.get? id).map Agent.unbegun =
      (population.get? id).map Agent.unbegun) : population'.modes = population.modes := by
  refine Array.ext_getElem? fun index => ?_
  rw [modes, modes, Array.getElem?_map, Array.getElem?_map]
  exact Agent.map_of_unbegun (same ⟨index⟩) (·.mode) fun _ => rfl

namespace Traffic

variable {table : ModeTable α} {context : RouteContext} {traffic traffic' : Traffic α}
  {happening : Happening}

theorem Step.unbegun (step : Step table context traffic happening traffic') (id : AgentId) :
    (traffic'.population.get? id).map Agent.unbegun =
      (traffic.population.get? id).map Agent.unbegun := by
  by_cases own : id = happening.agent
  · subst own
    cases step with
    | heldUp => rfl
    | departed found | skipped found | turnedAway found | gaveUp found
    | transferred _ _ _ _ found | arrived _ _ found | removed _ _ found =>
        change ((traffic.population.set _ _).get? _).map Agent.unbegun = _
        rw [Happening.agent, Population.get?_set_self found, found]
        rfl
  · rw [step.get?_other own]

/-- The vehicle that a happening puts on a link is that of its agent. All others were there
before. -/
theorem Step.mem_fleet (labelled : traffic.roads.Labelled)
    (step : Step table context traffic happening traffic') {link : LinkId}
    {vehicle : Vehicle α} (member : (link, vehicle) ∈ traffic'.roads.fleet) :
    (link, vehicle) ∈ traffic.roads.fleet ∨
      ∃ queue rider seeping, traffic.roads.queue? link = some queue ∧
        vehicle = queue.stamped rider context.now seeping ∧
        ((∃ source, (source, rider) ∈ traffic.roads.fleet) ∨
          ∃ agent, traffic.population.get? rider.agent = some agent ∧
            Vehicle.new? table rider.agent agent.mode = some rider) := by
  have left {source : LinkId} {queue : LinkQueue α} {rider : Vehicle α} {id : AgentId}
      (present : traffic.roads.queue? source = some queue)
      (aboard : queue.vehicles.find? (·.agent == id) = some rider) {movesOn : Bool}
      {entry : LinkId × Vehicle α}
      (member : entry ∈ (traffic.roads.setQueue source (queue.releasing rider movesOn)).fleet) :
      entry ∈ traffic.roads.fleet :=
    (Roads.fleet_releasing present aboard movesOn).mem_iff.mpr (List.mem_cons_of_mem _ member)
  have whole := step
  cases step with
  | skipped | turnedAway | gaveUp => exact .inl member
  | arrived present aboard | removed present aboard => exact .inl (left present aboard member)
  | heldUp => exact .inl (whole.like_of_heldUp.1.fleet.mem_iff.mp member)
  | @departed id target agent _ _ queue rider seeping _ found _ _ _ present built =>
      obtain same | old := List.mem_cons.mp
        ((Roads.fleet_holding present _).mem_iff.mp member)
      · rw [labelled target queue present] at same
        cases same
        have own := Vehicle.agent_of_new? built
        rw [← own] at found built
        exact .inr ⟨queue, rider, seeping, present, rfl, .inr ⟨agent, found, built⟩⟩
      · exact .inl old
  | @transferred id source target _ _ queue next rider seeping _ present aboard reached =>
      obtain same | old := List.mem_cons.mp
        ((Roads.fleet_holding reached _).mem_iff.mp member)
      · have released := labelled.setQueue present
          (rfl : (queue.releasing rider true).link = queue.link)
        rw [released target next reached] at same
        cases same
        have here : (source, rider) ∈ traffic.roads.fleet :=
          (Roads.mem_fleet labelled).mpr ⟨queue, present, List.mem_of_find?_eq_some aboard⟩
        rw [Roads.queue?_setQueue present] at reached
        split at reached
        · rename_i loop
          cases reached
          -- On a loop the vehicle enters the queue that it has just left.
          exact .inr ⟨queue, rider, seeping, loop ▸ present, rfl, .inl ⟨source, here⟩⟩
        · exact .inr ⟨next, rider, seeping, reached, rfl, .inl ⟨source, here⟩⟩
      · exact .inl (left present aboard old)

end Traffic

/-- That every vehicle is of the mode of its agent, and leaves its link only after the time
that the link takes. -/
structure Roads.Timed (roads : Roads α) (tickSecs : Nat) (table : ModeTable α)
    (history : List (Interval α)) (population : Population) : Prop where
  typed : ∀ {link vehicle}, (link, vehicle) ∈ roads.fleet → vehicle.IsOf table
  mode : ∀ {link vehicle agent}, (link, vehicle) ∈ roads.fleet →
    population.get? vehicle.agent = some agent → vehicle.mode = agent.mode
  stays : ∀ {link vehicle}, (link, vehicle) ∈ roads.fleet → ∃ ticks,
    Leg.Takes tickSecs table history vehicle.mode ⟨link, vehicle.entered⟩ ticks ∧
      vehicle.exitTick = vehicle.entered + ticks

namespace Roads.Timed

variable {tickSecs : Nat} {table : ModeTable α} {history : List (Interval α)}

theorem step {context : RouteContext} {traffic traffic' : Traffic α} {happening : Happening}
    {interval : Interval α}
    (timed : traffic.roads.Timed tickSecs table history traffic.population)
    (labelled : traffic.roads.Labelled) (member : interval ∈ history)
    (tick : interval.summary.tick = context.now)
    (mirrors : traffic.roads.Mirrors tickSecs interval.world.network)
    (step : Traffic.Step table context traffic happening traffic') :
    traffic'.roads.Timed tickSecs table history traffic'.population := by
  have modes {id : AgentId} {mode : ModeId}
      (before : ∀ agent, traffic.population.get? id = some agent → mode = agent.mode)
      {agent : Agent} (found : traffic'.population.get? id = some agent) :
      mode = agent.mode := by
    obtain ⟨old, present, same, -⟩ := Population.exists_of_unbegun found (step.unbegun id)
    exact (before old present).trans same
  have rider {vehicle : Vehicle α}
      (comes : (∃ source, (source, vehicle) ∈ traffic.roads.fleet) ∨
        ∃ agent, traffic.population.get? vehicle.agent = some agent ∧
          Vehicle.new? table vehicle.agent agent.mode = some vehicle) :
      vehicle.IsOf table ∧
        ∀ agent, traffic.population.get? vehicle.agent = some agent →
          vehicle.mode = agent.mode := by
    obtain ⟨source, aboard⟩ | ⟨agent, found, built⟩ := comes
    · exact ⟨timed.typed aboard, fun agent => timed.mode aboard⟩
    · refine ⟨Vehicle.isOf_of_new? built, fun again refound => ?_⟩
      cases found.symm.trans refound
      exact Vehicle.mode_of_new? built
  refine ⟨?_, ?_, ?_⟩
  · intro link vehicle aboard
    obtain old | ⟨queue, riding, seeping, -, rfl, comes⟩ := step.mem_fleet labelled aboard
    · exact timed.typed old
    · exact (rider comes).1
  · intro link vehicle agent aboard found
    obtain old | ⟨queue, riding, seeping, -, rfl, comes⟩ := step.mem_fleet labelled aboard
    · exact modes (fun _ => timed.mode old) found
    · exact modes (rider comes).2 found
  · intro link vehicle aboard
    obtain old | ⟨queue, riding, seeping, present, rfl, comes⟩ := step.mem_fleet labelled aboard
    · exact timed.stays old
    · obtain ⟨type, listed, -, speed⟩ := (rider comes).1
      obtain ⟨attributes, known, same⟩ := mirrors.travelTicks present
      refine ⟨queue.travelTicks riding.maxSpeed,
        ⟨interval, member, tick, attributes, type, known, listed, ?_⟩, rfl⟩
      rw [same, speed]

theorem congr {roads roads' : Roads α} {population : Population}
    (timed : roads.Timed tickSecs table history population)
    (same : roads'.fleet.Perm roads.fleet) :
    roads'.Timed tickSecs table history population :=
  ⟨fun aboard => timed.typed (same.mem_iff.mp aboard),
    fun aboard => timed.mode (same.mem_iff.mp aboard),
    fun aboard => timed.stays (same.mem_iff.mp aboard)⟩

theorem append {roads : Roads α} {population : Population} {later : List (Interval α)}
    (timed : roads.Timed tickSecs table history population) :
    roads.Timed tickSecs table (history ++ later) population := by
  refine ⟨timed.typed, timed.mode, fun aboard => ?_⟩
  obtain ⟨ticks, takes, exit⟩ := timed.stays aboard
  exact ⟨ticks, takes.append, exit⟩

end Roads.Timed

end MixedTraffic

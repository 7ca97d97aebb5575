import MixedTraffic.Proofs.Agreement
import MixedTraffic.Proofs.Run.Timetable

namespace MixedTraffic

/-! Traffic in company: the same traffic with more agents in the population, who take no part in
it, and in a context in which the drivers do as they do in the first. It goes the same way, and
where it cannot go on it fails for the same reason. -/

open Attempt (Agree)

/-- A population with more agents behind its own. -/
def Population.joinedBy (population : Population) (more : Array Agent) : Population :=
  ⟨population.agents ++ more⟩

namespace Population

variable {population : Population} {more : Array Agent} {id : AgentId}

@[simp] theorem joinedBy_empty (population : Population) :
    population.joinedBy #[] = population := by
  simp [joinedBy]

theorem get?_joinedBy (known : id.index < population.size) :
    (population.joinedBy more).get? id = population.get? id :=
  Array.getElem?_append_left known

theorem find_joinedBy (known : id.index < population.size) :
    (population.joinedBy more).find id = population.find id := by
  rw [find, get?_joinedBy known, find]

theorem acting_joinedBy (known : id.index < population.size) (action : TripAction) :
    (population.joinedBy more).acting id action = population.acting id action := by
  rw [acting, find_joinedBy known, acting]

theorem set_joinedBy (known : id.index < population.size) (member : Agent) :
    (population.joinedBy more).set id member = (population.set id member).joinedBy more := by
  rw [set, joinedBy, Array.setIfInBounds_append_left known]
  rfl

end Population

structure Driver.Indifferent (driver : Driver) (context context' : RouteContext) : Prop where
  departs : driver.departs context' = driver.departs context
  firstLink? : ∀ agent, driver.firstLink? agent context' = driver.firstLink? agent context
  nextLink? : ∀ agent current step,
    driver.nextLink? agent current step context' = driver.nextLink? agent current step context

theorem Driver.Indifferent.refl (driver : Driver) (context : RouteContext) :
    driver.Indifferent context context :=
  ⟨rfl, fun _ => rfl, fun _ _ _ => rfl⟩

theorem Driver.indifferent_fixed (route : List LinkId) (context context' : RouteContext) :
    (fixed route).Indifferent context context' :=
  ⟨rfl, fun _ => rfl, fun _ _ _ => rfl⟩

def Population.Indifferent (population : Population) (context context' : RouteContext) : Prop :=
  ∀ id agent, population.get? id = some agent → agent.driver.Indifferent context context'

theorem Population.Indifferent.of_unbegun {population population' : Population}
    {context context' : RouteContext} (indifferent : population.Indifferent context context')
    (same : ∀ id, (population'.get? id).map Agent.unbegun =
      (population.get? id).map Agent.unbegun) : population'.Indifferent context context' := by
  intro id agent found
  obtain ⟨old, present, -, driver, -⟩ := Population.exists_of_unbegun found (same id)
  exact driver ▸ indifferent id old present

namespace Traffic

variable {α : Type} {more : Array Agent} {size : Nat} {traffic traffic' : Traffic α}

/-- The second traffic is the first, with more agents behind its `size` agents. -/
structure Joined (more : Array Agent) (size : Nat) (traffic traffic' : Traffic α) : Prop where
  size : traffic.population.size = size
  roads : traffic'.roads = traffic.roads
  events : traffic'.events = traffic.events
  population : traffic'.population = traffic.population.joinedBy more

/-- That a work on traffic comes to the same in company. -/
abbrev Concurs (more : Array Agent) (size : Nat) :
    Except (Interrupted (RoadError α) (Traffic α)) (Traffic α) →
      Except (Interrupted (RoadError α) (Traffic α)) (Traffic α) → Prop :=
  Agree (Interrupted.Alike (Joined more size)) (Joined more size)

/-- As `Concurs`, for a work that also answers something. -/
abbrev Answers {β : Type} (more : Array Agent) (size : Nat) :
    Except (Interrupted (RoadError α) (Traffic α)) (β × Traffic α) →
      Except (Interrupted (RoadError α) (Traffic α)) (β × Traffic α) → Prop :=
  Agree (Interrupted.Alike (Joined more size)) fun left left' =>
    left'.1 = left.1 ∧ left.2.Joined more size left'.2

namespace Joined

theorem orStop {β : Type} (joined : traffic.Joined more size traffic')
    (result : Except (RoadError α) β) :
    Agree (Interrupted.Alike (Joined more size)) Eq (traffic.orStop result)
      (traffic'.orStop result) :=
  .same_stop result id joined

theorem refl (traffic : Traffic α) : traffic.Joined #[] traffic.population.size traffic :=
  ⟨rfl, rfl, rfl, (Population.joinedBy_empty _).symm⟩

theorem eq (joined : traffic.Joined #[] size traffic') : traffic' = traffic := by
  obtain ⟨-, roads, events, population⟩ := joined
  cases traffic
  cases traffic'
  simp_all

theorem find (joined : traffic.Joined more size traffic') {id : AgentId} (known : id.index < size) :
    traffic'.population.find id = traffic.population.find id := by
  rw [joined.population, Population.find_joinedBy (joined.size.symm ▸ known)]

theorem get? (joined : traffic.Joined more size traffic') {id : AgentId} (known : id.index < size) :
    traffic'.population.get? id = traffic.population.get? id := by
  rw [joined.population, Population.get?_joinedBy (joined.size.symm ▸ known)]

theorem acting (joined : traffic.Joined more size traffic') {id : AgentId}
    (known : id.index < size) (action : TripAction) :
    traffic'.population.acting id action = traffic.population.acting id action := by
  rw [joined.population, Population.acting_joinedBy (joined.size.symm ▸ known)]

theorem setAgent (joined : traffic.Joined more size traffic') {id : AgentId}
    (known : id.index < size) (member : Agent) :
    (traffic.setAgent id member).Joined more size (traffic'.setAgent id member) where
  size := (Population.size_set ..).trans joined.size
  roads := joined.roads
  events := joined.events
  population := by
    rw [Traffic.setAgent, joined.population,
      Population.set_joinedBy (joined.size.symm ▸ known)]
    rfl

theorem setQueue (joined : traffic.Joined more size traffic') (link : LinkId)
    (queue : LinkQueue α) :
    (traffic.setQueue link queue).Joined more size (traffic'.setQueue link queue) :=
  ⟨joined.size, congrArg (·.setQueue link queue) joined.roads, joined.events, joined.population⟩

theorem emit (joined : traffic.Joined more size traffic') (now : Tick) (kind : EventKind)
    (agent : AgentId) (link : LinkId) :
    (traffic.emit now kind agent link).Joined more size (traffic'.emit now kind agent link) :=
  ⟨joined.size, joined.roads,
    congrArg (fun events => events.push ⟨now, kind, agent, link⟩) joined.events, joined.population⟩

theorem act (joined : traffic.Joined more size traffic') {id : AgentId} (known : id.index < size)
    (action : TripAction) : Concurs more size (traffic.act id action) (traffic'.act id action) := by
  rw [Traffic.act, Traffic.act, joined.acting known action]
  refine (joined.orStop _).bind fun member _ same => ?_
  exact same ▸ .ok (joined.setAgent known member)

theorem hasWaited (joined : traffic.Joined more size traffic') {id : AgentId}
    (known : id.index < size) (now : Tick) :
    traffic'.hasWaited id now = traffic.hasWaited id now := by
  rw [Traffic.hasWaited, joined.get? known, joined.roads, Traffic.hasWaited]

theorem turnAway (joined : traffic.Joined more size traffic') (now : Tick) {id : AgentId}
    (known : id.index < size) (link : LinkId) :
    Answers more size (traffic.turnAway now id link) (traffic'.turnAway now id link) := by
  rw [Traffic.turnAway, Traffic.turnAway, joined.hasWaited known]
  split
  · exact (joined.act known _).bind fun _ _ aborts => .ok ⟨rfl, aborts.emit ..⟩
  · exact .ok ⟨rfl, joined⟩

theorem mark (joined : traffic.Joined more size traffic') (now : Tick) (entry : LinkId × AgentId) :
    Concurs more size (traffic.mark now entry) (traffic'.mark now entry) := by
  rw [Traffic.mark, Traffic.mark, joined.roads]
  refine (joined.orStop _).bind fun queue _ same => ?_
  exact same ▸ .ok (joined.setQueue entry.1 (queue.markBlocked entry.2 now))

variable [Quantity α]

theorem takeOff (joined : traffic.Joined more size traffic') (link : LinkId) (agent : AgentId)
    (movesOn : Bool) :
    Answers more size (traffic.takeOff link agent movesOn)
      (traffic'.takeOff link agent movesOn) := by
  rw [Traffic.takeOff, Traffic.takeOff, joined.roads]
  refine (joined.orStop _).bind fun queue _ same => ?_
  subst same
  refine (Agree.same_within _ id (joined.setQueue link)).bind fun left _ same => ?_
  exact same ▸ .ok ⟨rfl, joined.setQueue link left.2⟩

theorem putOn (joined : traffic.Joined more size traffic') (link : LinkId) (vehicle : Vehicle α)
    (now : Tick) :
    Concurs more size (traffic.putOn link vehicle now) (traffic'.putOn link vehicle now) := by
  rw [Traffic.putOn, Traffic.putOn, joined.roads]
  refine (joined.orStop _).bind fun queue _ same => ?_
  subst same
  refine (Agree.same_within _ id (joined.setQueue link)).bind fun entered _ same => ?_
  exact same ▸ .ok (joined.setQueue link entered.2)

theorem board (joined : traffic.Joined more size traffic') (table : ModeTable α) (now : Tick)
    {agent : AgentId} (known : agent.index < size) (link : LinkId) :
    Answers more size (traffic.board table now agent link)
      (traffic'.board table now agent link) := by
  rw [Traffic.board, Traffic.board, joined.find known, joined.roads]
  have put (roads : Roads α) :
      Joined more size { traffic with roads } { traffic' with roads } :=
    ⟨joined.size, rfl, joined.events, joined.population⟩
  refine (joined.orStop _).bind fun member _ same => ?_
  subst same
  refine (Agree.same_within _ id put).bind fun inserted _ same => ?_
  subst same
  exact ((put inserted.2).act known _).bind fun _ _ departs => .ok ⟨rfl, departs⟩

theorem move (joined : traffic.Joined more size traffic') (now : Tick) {move : Move}
    (known : move.agent.index < size) :
    Concurs more size (traffic.move now move) (traffic'.move now move) := by
  cases move with
  | transfer source id target =>
      refine (joined.takeOff source id true).bind ?_
      rintro ⟨_, left⟩ ⟨vehicle, left'⟩ ⟨rfl, off⟩
      refine ((off.emit now .linkLeft id source).putOn target vehicle now).bind fun _ _ on => ?_
      exact (on.act known _).bind fun _ _ acted => .ok (acted.emit ..)
  | arrive source id =>
      refine (joined.takeOff source id true).bind fun _ _ off => ?_
      refine ((off.2.emit now .linkLeft id source).act known _).bind fun _ _ arrives => ?_
      exact (arrives.act known _).bind fun _ _ completes => .ok (completes.emit ..)
  | stuck source id =>
      refine (joined.takeOff source id false).bind fun _ _ off => ?_
      exact (off.2.act known _).bind fun _ _ aborts => .ok (aborts.emit ..)

theorem commit (joined : traffic.Joined more size traffic') (now : Tick) {decision : NodeDecision}
    (known : ∀ move ∈ decision.moves, move.agent.index < size) :
    Concurs more size (traffic.commit now decision) (traffic'.commit now decision) := by
  refine (Agree.foldlM ?_ joined).bind fun _ _ moved => Agree.foldlM ?_ moved
  · exact fun move member _ _ joined => joined.move now (known move member)
  · exact fun entry _ _ _ joined => joined.mark now entry

theorem commitAll (joined : traffic.Joined more size traffic') (now : Tick)
    {decisions : List NodeDecision}
    (known : ∀ decision ∈ decisions, ∀ move ∈ decision.moves, move.agent.index < size) :
    Concurs more size (World.commitAll now traffic decisions)
      (World.commitAll now traffic' decisions) :=
  Agree.foldlM (fun decision member _ _ joined => joined.commit now (known decision member)) joined

variable {context context' : RouteContext}

theorem depart (joined : traffic.Joined more size traffic') (table : ModeTable α)
    (now : context'.now = context.now)
    (indifferent : traffic.population.Indifferent context context') {id : AgentId}
    (known : id.index < size) :
    Answers more size (traffic.depart table context id) (traffic'.depart table context' id) := by
  rw [Traffic.depart, Traffic.depart, joined.find known, now]
  refine (joined.orStop _).reached.bind ?_
  rintro agent _ ⟨found, -, rfl⟩
  rw [orStop_eq_ok, Attempt.mapError_eq_ok, Population.find_eq_ok] at found
  have same := indifferent id agent found
  rw [same.departs, same.firstLink?]
  split
  · exact (joined.act known _).bind fun _ _ skips => .ok ⟨rfl, skips⟩
  refine (joined.act known _).bind fun middle middle' waits => ?_
  refine (waits.orStop _).bind fun link _ same => ?_
  subst same
  have boarded := waits.board table context.now known link
  generalize middle.board table context.now id link = result at boarded
  generalize middle'.board table context.now id link = result' at boarded
  cases boarded with
  | ok same => exact .ok ⟨rfl, (same.2.emit ..).emit ..⟩
  | @error stopped stopped' halted =>
      -- A full link turns the agent away. Whatever else goes wrong ends both works.
      dsimp only
      rw [halted.cause]
      split
      · exact halted.reached.turnAway context.now known link
      · exact .error halted

theorem departAll (joined : traffic.Joined more size traffic') (table : ModeTable α)
    (now : context'.now = context.now)
    (indifferent : traffic.population.Indifferent context context') {due : List AgentId}
    (known : ∀ id ∈ due, id.index < size) :
    Answers more size (traffic.departAll table context due)
      (traffic'.departAll table context' due) := by
  induction due generalizing traffic traffic' with
  | nil => exact .ok ⟨rfl, joined⟩
  | cons id rest ih =>
      obtain ⟨first, others⟩ := List.forall_mem_cons.mp known
      refine (joined.depart table now indifferent first).reached.bind ?_
      rintro ⟨_, middle⟩ ⟨outcome, middle'⟩ ⟨departed, -, rfl, joined⟩
      obtain ⟨happening, -, step⟩ := depart_eq_ok.mp departed
      refine (ih joined (indifferent.of_unbegun step.unbegun) others).bind ?_
      rintro ⟨_, after⟩ ⟨outcomes, after'⟩ ⟨rfl, joined⟩
      exact .ok ⟨rfl, joined⟩

end Joined

end Traffic

variable {α : Type} [Quantity α]
  {more : Array Agent} {size : Nat} {traffic traffic' : Traffic α}
  {context context' : RouteContext}

/-- All nodes decide alike in company, since they ask nobody but those on the roads. -/
theorem Traffic.Joined.decideAll (joined : traffic.Joined more size traffic')
    (network : Network α) (now : context'.now = context.now)
    (indifferent : traffic.population.Indifferent context context')
    (labelled : traffic.roads.Labelled) (known : ∀ id ∈ traffic.roads.riders, id.index < size) :
    World.decideAll network context' traffic' = World.decideAll network context traffic := by
  rw [World.decideAll, World.decideAll, joined.roads]
  refine Attempt.mapM_congr fun node _ => ?_
  have sees (link : LinkId) (queue : LinkQueue α) (present : traffic.roads.queue? link = some queue)
      (vehicle : Vehicle α) (member : vehicle ∈ queue.vehicles) :
      Roads.Junction.Sees ⟨node, network, traffic.population, context⟩
        ⟨node, network, traffic'.population, context'⟩ vehicle := by
    have aboard := (Roads.mem_fleet labelled).mpr ⟨queue, present, member⟩
    have same := joined.find (known _ (List.mem_map_of_mem aboard))
    refine ⟨rfl, rfl, now, fun source => ?_⟩
    rw [Roads.Junction.ask, Roads.Junction.ask, same]
    cases found : traffic.population.find vehicle.agent with
    | error => rfl
    | ok agent =>
        have alike := indifferent _ agent (Population.find_eq_ok.mp found)
        exact congrArg Except.ok (alike.nextLink? ..)
  have heard (links : List LinkId) := Roads.hearLinks_congr rfl rfl (fun _ _ => rfl)
    fun link (_ : link ∈ links) => sees link
  simp only [Roads.decide, Roads.hear, heard]

theorem Population.Indifferent.of_steps {context'' : RouteContext} {table : ModeTable α}
    {happenings : List Happening} {middle : Traffic α}
    (indifferent : traffic.population.Indifferent context context')
    (steps : Traffic.Steps table context'' traffic happenings middle) :
    middle.population.Indifferent context context' :=
  steps.preserves (fun traffic => traffic.population.Indifferent context context')
    (fun indifferent step => indifferent.of_unbegun step.unbegun) indifferent

theorem Traffic.index_lt_of_mem_moves {network : Network α} {decisions : List NodeDecision}
    (labelled : traffic.roads.Labelled)
    (decided : World.decideAll network context traffic = .ok decisions)
    {decision : NodeDecision} (listed : decision ∈ decisions) {move : Move}
    (member : move ∈ decision.moves) : move.agent.index < traffic.population.size := by
  obtain ⟨node, -, planned⟩ := Attempt.exists_of_mem_mapM decided listed
  obtain ⟨outgoing, inbound, rooms, decides⟩ := Roads.decides_of_decide planned
  obtain ⟨_, chosen⟩ := decides.chosen
  obtain ⟨-, -, vehicle, -, own, -, answer, asked, -⟩ := chosen.grounds labelled member
  obtain ⟨agent, found, -⟩ := Roads.ask_eq_ok.mp asked
  exact own ▸ Population.isSome_get?.mp (Option.isSome_of_eq_some found)

end MixedTraffic

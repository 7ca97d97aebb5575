import MixedTraffic.Proofs.Road.Meter
import MixedTraffic.Proofs.Run.Precedence
import MixedTraffic.Proofs.Run.Stream

namespace MixedTraffic

/-! Through any run, a link lets out what its accumulator carries, which is what it gains and
never more than its ceiling. -/

/-- The passenger-car units that the vehicle of an agent counts for. -/
def Population.pcuOf (population : Population) (table : ModeTable Rat) (id : AgentId) : Rat :=
  ((population.get? id).bind fun agent => table.get? agent.mode).elim 0 (·.pcu)

theorem Population.pcuOf_nonneg (population : Population) (table : ModeTable Rat)
    (id : AgentId) : 0 ≤ population.pcuOf table id := by
  rw [pcuOf]
  cases found : (population.get? id).bind fun agent => table.get? agent.mode with
  | none => exact le_rfl
  | some type =>
      obtain ⟨agent, -, listed⟩ := Option.bind_eq_some_iff.mp found
      exact (table.positive listed).1.le

/-- The passenger-car units that leave a link by themselves. -/
def outflow (pcuOf : AgentId → Rat) (link : LinkId) (events : List Event) : Rat :=
  ((events.filter fun event => event.kind = .linkLeft ∧ event.link = link).map
    fun event => pcuOf event.agent).sum

namespace Happening

def Draws (link : LinkId) (happening : Happening) : Prop :=
  happening.leaves? = some link ∧ happening.movesOn = true

instance (link : LinkId) (happening : Happening) : Decidable (happening.Draws link) :=
  inferInstanceAs (Decidable (_ ∧ _))

def drawn (pcuOf : AgentId → Rat) (link : LinkId) (happenings : List Happening) : Rat :=
  ((happenings.filter (·.Draws link)).map fun happening => pcuOf happening.agent).sum

variable {pcuOf : AgentId → Rat} {link : LinkId} {happening : Happening}
  {first second happenings : List Happening}

theorem drawn_append :
    drawn pcuOf link (first ++ second) = drawn pcuOf link first + drawn pcuOf link second := by
  simp only [drawn, List.filter_append, List.map_append, List.sum_append]

theorem drawn_nonneg (nonneg : ∀ id, 0 ≤ pcuOf id) : 0 ≤ drawn pcuOf link happenings := by
  refine List.sum_nonneg fun pcu member => ?_
  obtain ⟨happening, -, rfl⟩ := List.mem_map.mp member
  exact nonneg happening.agent

theorem drawn_singleton :
    drawn pcuOf link [happening] = if happening.Draws link then pcuOf happening.agent else 0 := by
  by_cases draws : happening.Draws link <;> simp [drawn, draws]

theorem drawn_filter (pcuOf : AgentId → Rat) (link : LinkId) (happenings : List Happening) :
    drawn pcuOf link (happenings.filter (·.served? = some link)) =
      drawn pcuOf link happenings := by
  rw [drawn, List.filter_filter]
  refine congrArg (fun list => (List.map _ list).sum) (List.filter_congr fun happening _ => ?_)
  by_cases draws : happening.Draws link
  · simp [draws, served?_of_leaves? draws.1]
  · simp [draws]

theorem drawn_of_named {outcomes : List (AgentId × DepartureOutcome)}
    (named : happenings.map departure? = outcomes.map some) : drawn pcuOf link happenings = 0 := by
  have nothing : happenings.filter (·.Draws link) = [] := by
    refine List.filter_eq_nil_iff.mpr fun happening member => ?_
    have due := departure?_ne_none named happening member
    cases happening <;> simp [Draws, leaves?, departure?] at due ⊢
  rw [drawn, nothing]
  rfl

theorem outflow_of_events (pcuOf : AgentId → Rat) (link : LinkId) (now : Tick)
    (happenings : List Happening) :
    outflow pcuOf link (happenings.flatMap (·.events now)) = drawn pcuOf link happenings := by
  induction happenings with
  | nil => rfl
  | cons happening rest ih =>
      have single : outflow pcuOf link (happening.events now) =
          drawn pcuOf link [happening] := by
        rw [drawn_singleton]
        cases happening <;>
          simp [outflow, events, Draws, leaves?, movesOn, agent, List.filter_cons]
        all_goals split <;> simp
      rw [List.flatMap_cons, ← List.singleton_append, drawn_append, ← ih, ← single, outflow,
        List.filter_append, List.map_append, List.sum_append]
      rfl

end Happening

theorem Service.drawn_orders {service : Service Rat} (isLocal : service.Local)
    (pcuOf : AgentId → Rat) :
    Happening.drawn pcuOf service.link service.orders =
      (((service.plan.moves.filter Move.movesOn).map Move.agent).map pcuOf).sum := by
  have moved : (service.plan.moves.map Happening.ofMove).filter (·.Draws service.link) =
      (service.plan.moves.filter Move.movesOn).map .ofMove := by
    rw [List.filter_map]
    refine congrArg (List.map _) (List.filter_congr fun move listed => ?_)
    have own := isLocal move listed
    cases move <;> simp_all [Happening.Draws, Happening.ofMove, Happening.leaves?,
      Happening.movesOn, Move.movesOn, Move.source]
  have marked : (service.marks.map Happening.ofMark).filter (·.Draws service.link) = [] := by
    refine List.filter_eq_nil_iff.mpr fun happening listed => ?_
    obtain ⟨entry, -, rfl⟩ := List.mem_map.mp listed
    simp [Happening.Draws, Happening.ofMark, Happening.leaves?]
  rw [Happening.drawn, orders, List.filter_append, moved, marked, List.append_nil, List.map_map,
    List.map_map]
  refine congrArg List.sum (List.map_congr_left fun move _ => ?_)
  exact congrArg pcuOf (Happening.agent_ofMove move)

/-- That a queue has let out so many passenger-car units, and is metered as before. -/
structure LinkQueue.Gives (queue : LinkQueue Rat) (pcu : Rat) (queue' : LinkQueue Rat) :
    Prop where
  tickSecs : queue'.tickSecs = queue.tickSecs
  flowBudget : queue'.flowBudget = queue.flowBudget
  flowCeiling : queue'.flowCeiling = queue.flowCeiling
  accumulator : queue'.accumulator = queue.accumulator - pcu
  discharged : queue'.discharged = queue.discharged + pcu

namespace LinkQueue.Gives

variable {queue queue' queue'' : LinkQueue Rat} {pcu pcu' : Rat}

theorem refl (queue : LinkQueue Rat) : queue.Gives 0 queue :=
  ⟨rfl, rfl, rfl, (sub_zero _).symm, (add_zero _).symm⟩

theorem trans (first : queue.Gives pcu queue') (second : queue'.Gives pcu' queue'') :
    queue.Gives (pcu + pcu') queue'' where
  tickSecs := second.tickSecs.trans first.tickSecs
  flowBudget := second.flowBudget.trans first.flowBudget
  flowCeiling := second.flowCeiling.trans first.flowCeiling
  accumulator := by rw [second.accumulator, first.accumulator, sub_add_eq_sub_sub]
  discharged := by rw [second.discharged, first.discharged, add_assoc]

theorem metered {attributes : Link Rat} {table : ModeTable Rat} {secs : Nat}
    (gives : queue.Gives pcu queue') (metered : queue.Metered attributes table secs)
    (nonneg : 0 ≤ pcu) (enough : -Quantity.slack ≤ queue.accumulator - pcu) :
    queue'.Metered attributes table secs where
  tickSecs := gives.tickSecs.trans metered.tickSecs
  budget := gives.flowBudget.trans metered.budget
  ceiling := gives.flowCeiling.trans metered.ceiling
  lower := gives.accumulator ▸ enough
  upper := by
    rw [gives.accumulator]
    exact (sub_le_self _ nonneg).trans metered.upper

section Parts

variable {link : LinkId} {happening : Happening} {traffic : Traffic Rat} {now : Tick}
  {pcuOf : AgentId → Rat}

theorem of_loses (loses : queue.Loses link happening queue')
    (weighs : ∀ vehicle ∈ queue.vehicles, vehicle.pcu = pcuOf vehicle.agent) :
    queue.Gives (Happening.drawn pcuOf link [happening]) queue' := by
  rw [Happening.drawn_singleton]
  cases loses with
  | same apart =>
      rw [if_neg fun draws => apart draws.1]
      exact .refl queue
  | @left vehicle leaves aboard =>
      have own : vehicle.agent = happening.agent := by simpa using List.find?_some aboard
      have weight := weighs vehicle (List.mem_of_find?_eq_some aboard)
      rw [← own, ← weight]
      cases on : happening.movesOn with
      | true =>
          rw [if_pos ⟨leaves, on⟩]
          exact ⟨rfl, rfl, rfl, rfl, rfl⟩
      | false =>
          rw [if_neg fun draws => Bool.false_ne_true (on.symm.trans draws.2)]
          exact ⟨rfl, rfl, rfl, (sub_zero _).symm, (add_zero _).symm⟩

theorem of_admits (admits : queue.Admits link now happening traffic queue') :
    queue.Gives 0 queue' := by
  cases admits with
  | same => exact .refl queue
  | joined => exact ⟨rfl, rfl, rfl, (sub_zero _).symm, (add_zero _).symm⟩

theorem of_notes (notes : queue.Notes link now happening queue') : queue.Gives 0 queue' := by
  cases notes with
  | same => exact .refl queue
  | marked =>
      unfold markBlocked
      split
      · exact .refl queue
      · exact ⟨rfl, rfl, rfl, (sub_zero _).symm, (add_zero _).symm⟩

theorem of_turns {context : RouteContext}
    (turns : traffic.Turns context happening link queue queue')
    (weighs : ∀ vehicle ∈ queue.vehicles, vehicle.pcu = pcuOf vehicle.agent) :
    queue.Gives (Happening.drawn pcuOf link [happening]) queue' := by
  obtain ⟨loses, admits, notes⟩ := turns
  have all := ((of_loses loses weighs).trans (of_admits admits)).trans (of_notes notes)
  rwa [add_zero, add_zero] at all

end Parts

end LinkQueue.Gives

namespace Traffic

/-- That every vehicle counts for what its agent's does. -/
structure Weighs (traffic : Traffic Rat) (table : ModeTable Rat) (pcuOf : AgentId → Rat) :
    Prop where
  population : traffic.population.pcuOf table = pcuOf
  aboard : ∀ link vehicle, (link, vehicle) ∈ traffic.roads.fleet →
    vehicle.pcu = pcuOf vehicle.agent

variable {table : ModeTable Rat} {context : RouteContext} {traffic traffic' : Traffic Rat}
  {happening : Happening} {happenings : List Happening} {pending : List AgentId}
  {link : LinkId} {queue : LinkQueue Rat} {pcuOf : AgentId → Rat}

theorem Step.pcuOf_eq (step : Step table context traffic happening traffic') :
    traffic'.population.pcuOf table = traffic.population.pcuOf table := by
  funext id
  have weight (population : Population) : population.pcuOf table id =
      (((population.get? id).map Agent.unbegun).bind fun agent =>
        table.get? agent.mode).elim 0 (·.pcu) := by
    rw [Population.pcuOf, Option.bind_map]
    rfl
  rw [weight, weight, step.unbegun]

theorem Weighs.aboard_of_queue (weighs : traffic.Weighs table pcuOf)
    (labelled : traffic.roads.Labelled) (present : traffic.roads.queue? link = some queue) :
    ∀ vehicle ∈ queue.vehicles, vehicle.pcu = pcuOf vehicle.agent := fun vehicle member =>
  weighs.aboard link vehicle ((Roads.mem_fleet labelled).mpr ⟨queue, present, member⟩)

theorem Weighs.step (weighs : traffic.Weighs table pcuOf) (labelled : traffic.roads.Labelled)
    (step : Step table context traffic happening traffic') : traffic'.Weighs table pcuOf := by
  refine ⟨step.pcuOf_eq.trans weighs.population, fun link vehicle member => ?_⟩
  obtain old | ⟨queue, rider, seeping, -, rfl, ⟨source, aboard⟩ | ⟨agent, found, built⟩⟩ :=
    step.mem_fleet labelled member
  · exact weighs.aboard link vehicle old
  · exact weighs.aboard source rider aboard
  · obtain ⟨type, listed, made⟩ := Vehicle.new?_eq_some.mp built
    have pcu : rider.pcu = type.pcu := congrArg Vehicle.pcu made
    rw [LinkQueue.stamped_pcu, LinkQueue.stamped_agent, ← weighs.population, Population.pcuOf,
      found, Option.bind_some, listed, pcu]
    rfl

theorem Weighs.steps (weighs : traffic.Weighs table pcuOf) (labelled : traffic.roads.Labelled)
    (steps : Steps table context traffic happenings traffic') : traffic'.Weighs table pcuOf :=
  (steps.preserves (fun traffic => traffic.roads.Labelled ∧ traffic.Weighs table pcuOf)
    (fun held step => ⟨step.labelled held.1, held.2.step held.1 step⟩) ⟨labelled, weighs⟩).2

theorem Steps.gives (steps : Steps table context traffic happenings traffic')
    (placed : traffic.Placed pending) (weighs : traffic.Weighs table pcuOf)
    (present : traffic.roads.queue? link = some queue) :
    ∃ queue', traffic'.roads.queue? link = some queue' ∧
      queue.Gives (Happening.drawn pcuOf link happenings) queue' := by
  induction steps generalizing queue pending with
  | nil => exact ⟨queue, present, .refl queue⟩
  | @cons traffic happening middle rest last step _ ih =>
      obtain ⟨between, found, turns⟩ := step.turns placed.labelled present
      obtain ⟨queue', final, later⟩ :=
        ih (placed.step step) (weighs.step placed.labelled step) found
      have first := LinkQueue.Gives.of_turns turns
        (weighs.aboard_of_queue placed.labelled present)
      rw [← List.singleton_append, Happening.drawn_append]
      exact ⟨queue', final, first.trans later⟩

end Traffic

namespace World

variable {world world' : World Rat} {first : Network Rat} {table : ModeTable Rat} {secs : Nat}
  {pcuOf : AgentId → Rat}

/-- What the nodes let leave a link is no more than its accumulator holds, up to one slack. -/
theorem drawn_orders_le {network : Network Rat} {context : RouteContext} {traffic : Traffic Rat}
    {decisions : List NodeDecision} {link : LinkId} {queue : LinkQueue Rat}
    (decided : decideAll network context traffic = .ok decisions)
    (sound : network.Sound) (mirrors : traffic.roads.Mirrors secs network)
    (labelled : traffic.roads.Labelled) (weighs : traffic.Weighs table pcuOf)
    (present : traffic.roads.queue? link = some queue)
    (lower : -Quantity.slack ≤ queue.accumulator) :
    Happening.drawn pcuOf link (decisions.flatMap (·.orders)) ≤
      queue.accumulator + Quantity.slack := by
  obtain ⟨attended, attends, rfl⟩ := exists_attends decided
  have areLocal : ∀ service ∈ attended.flatten, service.Local := by
    intro service listed
    obtain ⟨node, own, before, after, found, serves⟩ := Roads.serves_of_attends attends listed
    exact serves.isLocal labelled found
  rw [← Happening.drawn_filter]
  by_cases served : link ∈ attended.flatten.map (·.link)
  · obtain ⟨service, listed, rfl⟩ := List.mem_map.mp served
    have once : (attended.flatten.map (·.link)).Nodup := by
      rw [Roads.map_link_of_attends attends]
      exact Roads.nodup_servedLinks sound mirrors
    obtain ⟨node, own, before, after, found, serves⟩ := Roads.serves_of_attends attends listed
    cases present.symm.trans found
    obtain ⟨passed, part, agents, enough⟩ := serves.draws lower
    have drawn : Happening.drawn pcuOf service.link service.orders =
        (passed.map (·.pcu)).sum := by
      rw [Service.drawn_orders (areLocal service listed), ← agents, List.map_map]
      refine congrArg List.sum (List.map_congr_left fun vehicle member => ?_)
      exact (weighs.aboard_of_queue labelled present vehicle (part.subset member)).symm
    rw [NodeDecision.filter_orders_all_of_mem areLocal attends.length_eq once listed, drawn]
    linarith
  · rw [NodeDecision.filter_orders_all_of_notMem areLocal served]
    exact neg_le_iff_add_nonneg.mp lower

/-- What the flow of a run rests on. -/
structure Measured (world : World Rat) (table : ModeTable Rat) (secs : Nat)
    (pcuOf : AgentId → Rat) : Prop where
  rated : world.table = table
  weighs : Traffic.Weighs { roads := world.roads, population := world.population } table pcuOf
  metered : world.roads.Metered world.network table secs

theorem Measured.of_build {σ : Type} {setup : SimSetup Rat σ} {start : Sim Rat σ}
    {roads : NetworkDraft Rat} (connected : roads.build = .ok setup.network)
    (built : setup.build = .ok start) :
    start.world.Measured setup.table setup.config.tickSecs
      (setup.population.pcuOf setup.table) := by
  obtain ⟨opened, made, world⟩ := (SimSetup.build_eq_ok built).world
  rw [world]
  refine ⟨rfl, ⟨rfl, fun link vehicle member => ?_⟩, ?_⟩
  · rw [Roads.fleet_of_ofNetwork made] at member
    cases member
  · exact Roads.metered_ofNetwork made fun link attributes found =>
      Network.flowCapacity_pos_of_build connected found

theorem Measured.nonneg (measured : world.Measured table secs pcuOf) (id : AgentId) :
    0 ≤ pcuOf id :=
  measured.weighs.population ▸ Population.pcuOf_nonneg ..

/-- Changes of the network meter the links anew, and give them no more than they held. -/
theorem Measured.changed (measured : world.Measured table secs pcuOf)
    (charted : world.Charted first secs) (made : world.applyChanges = .ok world') :
    world'.roads.Metered world'.network table secs ∧
      ∀ link queue, world.roads.queue? link = some queue →
        ∃ queue', world'.roads.queue? link = some queue' ∧
          queue'.accumulator ≤ queue.accumulator := by
  have kept := foldlM_applyChange_preserves
    (fun network roads => roads.Mirrors secs network ∧ roads.Metered network table secs ∧
      ∀ link queue, world.roads.queue? link = some queue →
        ∃ queue', roads.queue? link = some queue' ∧ queue'.accumulator ≤ queue.accumulator)
    (by
      rintro network roads change network' - ⟨mirrors, metered, less⟩ applied
      rw [measured.rated]
      obtain ⟨metered', less'⟩ := metered.refresh mirrors applied
      refine ⟨mirrors.refresh applied table, metered', fun link queue present => ?_⟩
      obtain ⟨between, found, lower⟩ := less link queue present
      obtain ⟨queue', final, lower'⟩ := less' link between found
      exact ⟨queue', final, lower'.trans lower⟩)
    ⟨charted.mirrors, measured.metered, fun link queue present => ⟨queue, present, le_rfl⟩⟩ made
  exact kept.2

theorem Measured.refilled (measured : world.Measured table secs pcuOf)
    (made : world.applyChanges = .ok world') : world'.refilled.Weighs table pcuOf := by
  refine ⟨?_, fun link vehicle member => ?_⟩
  · rw [← measured.weighs.population, World.refilled, (applyChanges_revises made).population]
  · exact measured.weighs.aboard link vehicle ((refilled_like made).fleet.mem_iff.mp member)

end World

namespace Interval

/-- The passenger-car units that a link has let out in an interval. -/
def discharged (interval : Interval Rat) (link : LinkId) : Rat :=
  (interval.world.roads.queue? link).elim 0 (·.discharged)

/-- The passenger-car units that a link has gained in an interval. -/
def flowBudget (interval : Interval Rat) (link : LinkId) : Rat :=
  (interval.world.roads.queue? link).elim 0 (·.flowBudget)

structure Meters (interval : Interval Rat) (table : ModeTable Rat) (secs : Nat)
    (pcuOf : AgentId → Rat) (link : LinkId) (attributes : Link Rat)
    (queue queue' : LinkQueue Rat) : Prop where
  known : interval.world.network.link? link = some attributes
  positive : 0 < attributes.flowCapacity
  present : interval.world.roads.queue? link = some queue'
  metered : queue'.Metered attributes table secs
  discharged : queue'.discharged = outflow pcuOf link interval.events.toList
  within : queue'.discharged ≤ attributes.flowCeiling table secs + Quantity.slack
  balance : queue'.accumulator + queue'.discharged ≤
    queue.accumulator + attributes.flowBudget secs

end Interval

namespace Passage

variable {passage : Passage Rat} {first : Network Rat} {table : ModeTable Rat} {secs : Nat}
  {pcuOf : AgentId → Rat} {link : LinkId} {queue : LinkQueue Rat}

theorem drawn_departures (passage : Passage Rat) (pcuOf : AgentId → Rat) (link : LinkId) :
    Happening.drawn pcuOf link passage.course.departures = 0 :=
  Happening.drawn_of_named passage.follows.named

/-- What leaves a link in an interval is no more than the accumulator holds, up to one slack. -/
theorem drawn_happenings_le (regular : passage.world.Regular first secs) (sound : first.Sound)
    (measured : passage.world.Measured table secs pcuOf)
    (present : passage.course.midway.roads.queue? link = some queue)
    (lower : -Quantity.slack ≤ queue.accumulator) :
    Happening.drawn pcuOf link passage.course.happenings ≤ queue.accumulator + Quantity.slack := by
  obtain ⟨pending, placed⟩ := placed_midway regular
  have weighs : passage.course.midway.Weighs table pcuOf := by
    have departed := passage.follows.departed
    rw [passage.follows.revises.table, measured.rated] at departed
    exact (measured.refilled passage.follows.changed).steps (passage.placed regular).labelled
      departed
  rw [Course.happenings, Happening.drawn_append, passage.drawn_departures, zero_add]
  exact World.drawn_orders_le passage.follows.decided (passage.sound regular sound)
    (mirrors_midway regular) placed.labelled weighs present lower

theorem exists_meters (regular : passage.world.Regular first secs) (sound : first.Sound)
    (measured : passage.world.Measured table secs pcuOf)
    (present : passage.world.roads.queue? link = some queue) :
    ∃ attributes queue', passage.interval.Meters table secs pcuOf link attributes queue queue' := by
  obtain ⟨metered, less⟩ := measured.changed regular.charted passage.follows.changed
  obtain ⟨changed, found, lower⟩ := less link queue present
  obtain ⟨attributes, known, positive, meter⟩ := metered link changed found
  have opened : passage.course.changed.refilled.roads.queue? link = some changed.refill :=
    Roads.queue?_refill found
  have meter' := meter.refill positive
  have filled := meter.refill_le
  have rated : passage.course.changed.table = table :=
    passage.follows.revises.table.trans measured.rated
  obtain ⟨seen, midway, departing⟩ := passage.follows.departed.gives (passage.placed regular)
    (rated ▸ measured.refilled passage.follows.changed) opened
  obtain ⟨queue', final, gives⟩ := passage.follows.steps.gives (passage.placed regular)
    (rated ▸ measured.refilled passage.follows.changed) opened
  -- Departures draw nothing, so that the service begins with what the accumulator was filled to.
  rw [passage.drawn_departures] at departing
  have kept : seen.accumulator = changed.refill.accumulator :=
    departing.accumulator.trans (sub_zero _)
  have enough := drawn_happenings_le regular sound measured midway (kept ▸ meter'.lower)
  rw [kept] at enough
  have discharged : queue'.discharged = Happening.drawn pcuOf link passage.course.happenings :=
    gives.discharged.trans (zero_add _)
  refine ⟨attributes, queue', known, positive, final, ?_, ?_, ?_, ?_⟩
  · exact gives.metered meter' (Happening.drawn_nonneg measured.nonneg) (by linarith)
  · rw [discharged, interval, passage.follows.events, Happening.outflow_of_events]
  · rw [discharged]
    linarith [meter'.upper]
  · rw [discharged, gives.accumulator]
    linarith

end Passage

namespace World

variable {world start : World Rat} {first : Network Rat} {table : ModeTable Rat} {secs : Nat}
  {pcuOf : AgentId → Rat} {history : List (Interval Rat)}

theorem Measured.interval {flowPermanent : Bool} {interval : Interval Rat}
    (measured : world.Measured table secs pcuOf) (regular : world.Regular first secs)
    (sound : first.Sound) (simulated : world.interval flowPermanent = .ok interval) :
    interval.next.Measured table secs pcuOf := by
  obtain ⟨passage, rfl, -, rfl⟩ := World.exists_passage simulated
  have revises := passage.follows.revises
  have rated : passage.course.changed.table = table := revises.table.trans measured.rated
  have steps := passage.follows.steps
  rw [rated] at steps
  obtain ⟨population, aboard⟩ :=
    (measured.refilled passage.follows.changed).steps (passage.placed regular).labelled steps
  refine ⟨rated, ⟨population, aboard⟩, fun link queue' present => ?_⟩
  have sites : passage.interval.next.roads.sites = passage.world.roads.sites :=
    (Enduring.sites passage.world.roads).interval rfl simulated
  obtain ⟨queue, found, -⟩ := Roads.site_eq_of_sites sites present
  obtain ⟨attributes, last, meters⟩ := Passage.exists_meters regular sound measured found
  cases present.symm.trans meters.present
  exact ⟨attributes, meters.known, meters.positive, meters.metered⟩

theorem Measured.run {world' : World Rat} (measured : world.Measured table secs pcuOf)
    (regular : world.Regular first secs) (sound : first.Sound)
    (run : World.Run world history world') : world'.Measured table secs pcuOf := by
  have both := run.preserves
    (fun world => world.Regular first secs ∧ world.Measured table secs pcuOf)
    (fun held simulated => ⟨held.1.interval simulated,
      held.2.interval held.1 sound simulated⟩) ⟨regular, measured⟩
  exact both.2

namespace Run

theorem meters {world' : World Rat} {link : LinkId} {queue : LinkQueue Rat}
    (run : World.Run world history world') (regular : world.Regular first secs)
    (sound : first.Sound) (measured : world.Measured table secs pcuOf)
    (present : world.roads.queue? link = some queue) :
    (∀ interval ∈ history, ∃ attributes before after,
      interval.Meters table secs pcuOf link attributes before after) ∧
    ∃ queue', world'.roads.queue? link = some queue' ∧
      (history.map (·.discharged link)).sum + queue'.accumulator ≤
        queue.accumulator + (history.map (·.flowBudget link)).sum := by
  induction run with
  | start => exact ⟨List.forall_mem_nil _, queue, present, by simp⟩
  | @step history middle _ interval before simulated ih =>
      obtain ⟨each, between, found, balance⟩ := ih
      obtain ⟨passage, rfl, -, rfl⟩ := World.exists_passage simulated
      obtain ⟨attributes, queue', meters⟩ := Passage.exists_meters (regular.run before) sound
        (measured.run regular sound before) found
      have discharged : passage.interval.discharged link = queue'.discharged := by
        rw [Interval.discharged, meters.present]
        rfl
      have budget : passage.interval.flowBudget link = attributes.flowBudget secs := by
        rw [Interval.flowBudget, meters.present, ← meters.metered.budget]
        rfl
      refine ⟨List.forall_mem_append.mpr ⟨each, List.forall_mem_singleton.mpr
        ⟨attributes, between, queue', meters⟩⟩, queue', meters.present, ?_⟩
      simp only [List.map_append, List.sum_append, List.map_singleton, List.sum_singleton,
        discharged, budget]
      linarith [meters.balance]

end Run

end World

/-- Every link keeps to its token bucket, also where its capacity changes. After each interval
the accumulator is within its bounds, and what has been let out is what the vehicles that left
the link count for. Any number of intervals in a row let out no more than the accumulator held
before them and gained in them. -/
theorem Sim.Run.keeps_token_bucket {σ : Type} {setup : SimSetup Rat σ}
    {start first last : Sim Rat σ} {earlier later : List (Interval Rat)}
    {roads : NetworkDraft Rat} {draft : PopulationDraft} {table : ModeTable Rat}
    (connected : roads.build = .ok setup.network) (drafted : draft.Drafted)
    (populated : draft.build table = .ok setup.population) (built : setup.build = .ok start)
    (before : Sim.Run start earlier first) (window : Sim.Run first later last) {link : LinkId}
    (known : (setup.network.link? link).isSome) :
    ∃ queue, first.world.roads.queue? link = some queue ∧
      (∀ interval ∈ later, ∃ attributes after,
        interval.world.network.link? link = some attributes ∧
        interval.world.roads.queue? link = some after ∧
        after.flowBudget = attributes.flowCapacity * setup.config.tickSecs / 3600 ∧
        -(1 / 10 ^ 9) ≤ after.accumulator ∧
        after.accumulator ≤ max after.flowBudget setup.table.maxPcu ∧
        after.discharged =
          outflow (setup.population.pcuOf setup.table) link interval.events.toList ∧
        after.discharged ≤ max after.flowBudget setup.table.maxPcu + 1 / 10 ^ 9) ∧
      (later.map (·.discharged link)).sum ≤
        queue.accumulator + (later.map (·.flowBudget link)).sum + 1 / 10 ^ 9 := by
  have sound := Network.sound_of_build connected
  have regular := (World.Regular.of_build built (drafted.fresh_of_build populated)).run before.world
  have measured := (World.Measured.of_build connected built).run
    (.of_build built (drafted.fresh_of_build populated)) sound before.world
  obtain ⟨queue, present⟩ : ∃ queue, first.world.roads.queue? link = some queue := by
    obtain ⟨attributes, found⟩ := Option.isSome_iff_exists.mp known
    obtain ⟨present, there, -⟩ := regular.charted.alike.symm.link? found
    refine Option.isSome_iff_exists.mp ?_
    rw [regular.charted.mirrors.isSome_queue?, there]
    rfl
  have slack : (Quantity.slack : Rat) = 1 / 10 ^ 9 := by
    norm_num [Quantity.slack, Quantity.fraction]
  obtain ⟨each, final, found, balance⟩ := window.world.meters regular sound measured present
  refine ⟨queue, present, fun interval member => ?_, ?_⟩
  · obtain ⟨attributes, _, after, meters⟩ := each interval member
    have budget := meters.metered.budget
    refine ⟨attributes, after, meters.known, meters.present, budget, slack ▸ meters.metered.lower,
      ?_, meters.discharged, ?_⟩ <;> rw [budget]
    · exact meters.metered.upper
    · exact slack ▸ meters.within
  · obtain ⟨attributes, -, -, meter⟩ :=
      (measured.run regular sound window.world).metered link final found
    have lower := meter.lower
    rw [← slack]
    linarith

/-- The capacity of a link has gone down, and a wide vehicle has to wait for an interval. -/
theorem Bottleneck.keeps_token_bucket_of_change :
    ∃ network population start first last earlier one two queue, draft.build = .ok network ∧
      (crowd [(narrow, 0, [entry, exit]), (wide, 0, [entry, exit]),
        (narrow, 0, [entry, exit])]).build table = .ok population ∧
      { setup network population with
        dynamics := {}, changes := [⟨1, entry, none, some 5400⟩] }.build = .ok start ∧
      Sim.Run start earlier first ∧ Sim.Run first [one, two] last ∧
      first.world.roads.queue? entry = some queue ∧ queue.accumulator = 1 ∧
      one.discharged entry = 2 ∧ two.discharged entry = 1 ∧
      one.flowBudget entry = 3 / 2 ∧ two.flowBudget entry = 3 / 2 ∧
      2 = outflow (population.pcuOf table) entry one.events.toList ∧
      one.discharged entry + two.discharged entry ≤
        queue.accumulator + (one.flowBudget entry + two.flowBudget entry) + 1 / 10 ^ 9 := by
  have ran : drive? draft [(narrow, 0, [entry, exit]), (wide, 0, [entry, exit]),
      (narrow, 0, [entry, exit])]
      (fun network population => { setup network population with
        dynamics := {}, changes := [⟨1, entry, none, some 5400⟩] }) 2
      (fun network _ _ first =>
        (first.world.interval first.flowPermanent).toOption.bind fun (one : Interval Rat) =>
        (first.step {}).toOption.bind fun (stop, second) =>
        (second.world.interval second.flowPermanent).toOption.bind fun (two : Interval Rat) =>
        (second.step {}).toOption.bind fun (stop', last) =>
        (first.world.roads.queue? entry).map fun (queue : LinkQueue Rat) =>
          ((network.link? entry).isSome, queue.accumulator, one.discharged entry,
            two.discharged entry, one.flowBudget entry, two.flowBudget entry)) =
      some (true, 1, 2, 1, 3 / 2, 3 / 2) := by decide +kernel
  obtain ⟨network, population, start, first, earlier, connected, populated, built, -, before,
    seen⟩ := exists_of_drive? ran
  simp only [Option.bind_eq_some_iff, Option.map_eq_some_iff, Attempt.toOption_eq_some,
    Prod.mk.injEq, Prod.exists] at seen
  obtain ⟨one, simulated, stop, second, stepped, two, simulated', stop', last, stepped', queue,
    present, known, held, gone, gone', gains, gains'⟩ := seen
  have window : Sim.Run first [one, two] last :=
    (Sim.Run.start.step simulated stepped).step simulated' stepped'
  obtain ⟨queue', present', each, total⟩ := Sim.Run.keeps_token_bucket connected
    (crowd_drafted _) populated built before window known
  cases present.symm.trans present'
  obtain ⟨attributes, after, -, there, -, -, -, left, -⟩ := each one List.mem_cons_self
  have same : one.discharged entry = after.discharged := by
    rw [Interval.discharged, there]
    rfl
  refine ⟨network, population, start, first, last, earlier, one, two, queue, connected, populated,
    built, before, window, present, held, gone, gone', gains, gains', ?_, by simpa using total⟩
  rw [← gone, same]
  exact left

end MixedTraffic

import MixedTraffic.Proofs.Lists
import MixedTraffic.Proofs.Road.Contention
import MixedTraffic.Proofs.Run.Accounts
import MixedTraffic.Proofs.Run.History
import MixedTraffic.Proofs.Run.Preparation

namespace MixedTraffic

/-! Where nobody seeps, a node lets the ready vehicles of each inbound link go in their order, and
keeps none of them back but behind one that finds no room. -/

namespace LinkPlan

/-- The agents that leave by themselves. -/
def gone (plan : LinkPlan) : List AgentId := (plan.moves.filter (·.movesOn)).map (·.agent)

/-- The agents that are recorded as turned away: taken off the link, or left in their place. -/
def recorded (plan : LinkPlan) : List AgentId :=
  (plan.moves.filter (!·.movesOn)).map (·.agent) ++ plan.blocked.toList

/-- That all ready agents leave, up to the first who is turned away. -/
inductive Exhausts {α : Type} (plan : LinkPlan) (ready : List AgentId) :
    List (Vehicle α) → Prop where
  | all (gone : ready = plan.gone) (recorded : plan.recorded = []) : Exhausts plan ready []
  | upTo {vehicle : Vehicle α} {rest : List AgentId}
      (gone : ready = plan.gone ++ vehicle.agent :: rest)
      (recorded : plan.recorded = [vehicle.agent]) : Exhausts plan ready [vehicle]

theorem Exhausts.move {α : Type} {plan : LinkPlan} {ready : List AgentId}
    {refused : List (Vehicle α)} (exhausts : plan.Exhausts ready refused) {first : Move}
    (on : first.movesOn = true) :
    (plan.move first).Exhausts (first.agent :: ready) refused := by
  have gone : (plan.move first).gone = first.agent :: plan.gone := by
    unfold LinkPlan.gone LinkPlan.move
    rw [List.filter_cons_of_pos on, List.map_cons]
  have recorded : (plan.move first).recorded = plan.recorded := by
    unfold LinkPlan.recorded LinkPlan.move
    rw [List.filter_cons_of_neg (by simp [on])]
  cases exhausts with
  | all left silent => exact .all (by rw [gone, left]) (recorded.trans silent)
  | upTo left one => exact .upTo (by rw [gone, left, List.cons_append]) (recorded.trans one)

end LinkPlan

namespace Roads

variable {α : Type} [Quantity α] {roads : Roads α} {junction : Junction α}
  {queue : LinkQueue α} {accumulator : α} {held : Bool} {rooms rooms' : Rooms α}
  {vehicles refused : List (Vehicle α)} {plan : LinkPlan}

theorem Calls.readyAgents_cons {vehicle : Vehicle α}
    (calls : roads.Calls junction accumulator held vehicle) (laws : Quantity.Rationed α)
    (defined : (accumulator == accumulator) = true)
    (positive : Quantity.isPositive vehicle.pcu = true) (rest : List (Vehicle α)) :
    LinkQueue.readyAgents junction.context.now accumulator (vehicle :: rest) =
      vehicle.agent ::
        LinkQueue.readyAgents junction.context.now (accumulator - vehicle.pcu) rest := by
  rw [LinkQueue.readyAgents, if_pos ⟨calls.ready, (laws.fits defined positive).mp calls.carried⟩]

/-- The service of a link and the count of those ready on it keep the same accumulator. -/
theorem Serves.exhausts (serves : roads.Serves junction queue accumulator held rooms vehicles plan
    refused rooms') (laws : Quantity.Rationed α) (nobody : roads.anySeeps = false)
    (free : held = false) (defined : (accumulator == accumulator) = true)
    (sized : ∀ vehicle ∈ vehicles, Quantity.isPositive vehicle.pcu = true) :
    plan.Exhausts (LinkQueue.readyAgents junction.context.now accumulator vehicles) refused := by
  -- Whoever leaves takes the same from both accumulators. The first who is turned away ends the
  -- service, while the count of the ready goes on behind.
  induction serves with
  | done => exact .all rfl rfl
  | early early =>
      refine .all ?_ rfl
      rw [LinkQueue.readyAgents, if_neg fun ready => Nat.not_lt.mpr ready.1 early]
      rfl
  | dry ready passes dry =>
      obtain ⟨positive, -⟩ := List.forall_mem_cons.mp sized
      refine .all ?_ rfl
      rw [LinkQueue.readyAgents, if_neg fun ready =>
        (laws.fits defined positive).mpr ready.2 dry]
      rfl
  | behind | again => cases free
  | arrive calls asked _ ih =>
      obtain ⟨positive, others⟩ := List.forall_mem_cons.mp sized
      rw [calls.readyAgents_cons laws defined positive]
      exact (ih free (laws.defined defined positive) others).move rfl
  | transfer calls asked _ taken _ ih =>
      obtain ⟨positive, others⟩ := List.forall_mem_cons.mp sized
      rw [calls.readyAgents_cons laws defined positive]
      exact (ih free (laws.defined defined positive) others).move rfl
  | stuck calls =>
      obtain ⟨positive, -⟩ := List.forall_mem_cons.mp sized
      rw [calls.readyAgents_cons laws defined positive]
      exact .upTo rfl rfl
  | last calls =>
      obtain ⟨positive, -⟩ := List.forall_mem_cons.mp sized
      rw [calls.readyAgents_cons laws defined positive]
      exact .upTo rfl rfl
  | first _ _ _ somebody =>
      rw [nobody] at somebody
      cases somebody

end Roads

namespace NodeDecision

/-- The agents that leave a link by themselves. -/
def gone (decision : NodeDecision) (link : LinkId) : List AgentId :=
  (decision.moves.filter fun move => move.movesOn && decide (move.source = link)).map (·.agent)

/-- The agents of a link that are recorded as turned away. -/
def recorded (decision : NodeDecision) (link : LinkId) : List AgentId :=
  (decision.moves.filter fun move => !move.movesOn && decide (move.source = link)).map (·.agent) ++
    (decision.blocked.filter fun entry => decide (entry.1 = link)).map (·.2)

theorem blocked_of_hearing {α : Type} {hearings : List (Hearing α)} {hearing : Hearing α}
    (distinct : (hearings.map (·.link)).Nodup) (member : hearing ∈ hearings) (node : NodeId) :
    (NodeDecision.ofHearings node hearings).blocked.filter (·.1 = hearing.link) =
      (hearing.plan.blocked.map (hearing.link, ·)).toList := by
  refine filter_flatMap_of_mem (fun other listed entry marked => ?_) distinct member
  obtain ⟨id, -, rfl⟩ := Option.map_eq_some_iff.mp (Option.mem_toList.mp marked)
  rfl

end NodeDecision

/-- The requests on a link that were turned away. -/
def Hearing.refusals {α : Type} (hearings : List (Hearing α)) (link : LinkId) :
    List (Request α) :=
  (hearings.flatMap (·.requests)).filter fun request =>
    !request.granted && decide (request.source = link)

namespace Roads

variable {α : Type} [Quantity α] {roads : Roads α} {junction : Junction α}
  {queue : LinkQueue α} {hearing : Hearing α} {hearings : List (Hearing α)} {left : Rooms α}
  {decision : NodeDecision} {link : LinkId}

/-- What holds of the roads whenever a node decides. An accumulator that differs from itself is
undefined. -/
structure Orderly (roads : Roads α) : Prop where
  labelled : roads.Labelled
  distinct : ∀ node links, roads.inbound? node = some links → links.Nodup
  sized : roads.Sized
  defined : ∀ link queue, roads.queue? link = some queue →
    (queue.accumulator == queue.accumulator) = true

theorem orderly_iff : roads.Orderly ↔
    (∀ position : Fin roads.queues.size, ∀ queue ∈ roads.queue? ⟨position⟩,
      queue.link = ⟨position⟩) ∧
    (∀ position : Fin roads.inbound.size, ∀ links ∈ roads.inbound? ⟨position⟩, links.Nodup) ∧
    roads.Sized ∧
    ∀ position : Fin roads.queues.size, ∀ queue ∈ roads.queue? ⟨position⟩,
      (queue.accumulator == queue.accumulator) = true := by
  constructor
  · intro orderly
    exact ⟨forall_queue?_iff.mp orderly.labelled, fun position => orderly.distinct ⟨position⟩,
      orderly.sized, forall_queue?_iff.mp orderly.defined⟩
  · rintro ⟨labelled, distinct, sized, defined⟩
    refine ⟨forall_queue?_iff.mpr labelled, fun node links coming => ?_, sized,
      forall_queue?_iff.mpr defined⟩
    obtain ⟨bound, -⟩ := Array.getElem?_eq_some_iff.mp coming
    exact distinct ⟨node.index, bound⟩ links coming

instance (roads : Roads α) : Decidable roads.Orderly :=
  decidable_of_decidable_of_iff orderly_iff.symm

/-- In every interval the roads are in order when the nodes decide. -/
theorem orderly_of_prepares {world : World Rat} {flowPermanent : Bool} {tickSecs : Nat}
    {course : Course Rat} (prepares : world.Prepares flowPermanent tickSecs course) :
    course.midway.roads.Orderly := by
  obtain ⟨pending, placed⟩ := prepares.placed
  refine ⟨placed.labelled, fun node links coming => ?_, fun link queue present vehicle aboard => ?_,
    fun _ _ _ => beq_self_eq_true _⟩
  · have ranked := prepares.mirrors.inbound node
    rw [coming] at ranked
    generalize row : course.changed.network.incoming? node = incoming at ranked
    cases ranked with
    | some perm => exact perm.nodup_iff.mpr (prepares.sound.nodup_incoming row)
  · obtain ⟨type, listed, size, -⟩ :=
      prepares.typed ((mem_fleet placed.labelled).mpr ⟨queue, present, aboard⟩)
    rw [size]
    exact (ModeTable.isPositive listed).1

/-- That the agents who leave a link are those ready on it, up to the first who is turned away,
and that even in the end there is no room for that one. -/
structure Drains (roads : Roads α) (junction : Junction α) (decision : NodeDecision)
    (hearings : List (Hearing α)) (left : Rooms α) (link : LinkId) (queue : LinkQueue α) :
    Prop where
  leading : decision.gone link <+: queue.ready junction.context.now
  all : Hearing.refusals hearings link = [] →
    decision.gone link = queue.ready junction.context.now ∧ decision.recorded link = []
  upTo : ∀ request ∈ Hearing.refusals hearings link,
    Hearing.refusals hearings link = [request] ∧ request.vehicle ∈ queue.vehicles ∧
    junction.ask link request.vehicle = .ok (some request.target) ∧
    (∃ rest, queue.ready junction.context.now =
      decision.gone link ++ request.vehicle.agent :: rest) ∧
    decision.recorded link = [request.vehicle.agent] ∧
    ∃ room, left.lookup request.target = some room ∧
      room.take? request.vehicle.pcu (roads.seeps request.vehicle.mode) = none

section Parts

variable (distinct : (hearings.map (·.link)).Nodup) (labelled : roads.Labelled)
  (hears : ∀ hearing ∈ hearings, ∃ queue, roads.Hears junction hearing queue)
  (member : hearing ∈ hearings)
include distinct labelled hears member

theorem moves_of_hearing (node : NodeId) :
    (NodeDecision.ofHearings node hearings).moves.filter (·.source = hearing.link) =
      hearing.plan.moves := by
  refine filter_flatMap_of_mem (fun other listed move chosen => ?_) distinct member
  obtain ⟨queue, present, _, _, _, -, reports⟩ := hears other listed
  rw [reports.sources move chosen, labelled other.link queue present]

theorem requests_of_hearing :
    (hearings.flatMap (·.requests)).filter (·.source = hearing.link) = hearing.requests := by
  refine filter_flatMap_of_mem (fun other listed request made => ?_) distinct member
  obtain ⟨queue, present, _, _, _, -, reports⟩ := hears other listed
  rw [(reports.asked request made).1, labelled other.link queue present]

theorem gone_of_hearing (node : NodeId) :
    (NodeDecision.ofHearings node hearings).gone hearing.link = hearing.plan.gone := by
  unfold NodeDecision.gone LinkPlan.gone
  rw [← moves_of_hearing distinct labelled hears member node, List.filter_filter]

theorem recorded_of_hearing (node : NodeId) :
    (NodeDecision.ofHearings node hearings).recorded hearing.link = hearing.plan.recorded := by
  unfold NodeDecision.recorded LinkPlan.recorded
  rw [← moves_of_hearing distinct labelled hears member node, List.filter_filter,
    NodeDecision.blocked_of_hearing distinct member]
  cases hearing.plan.blocked <;> rfl

theorem refusals_of_hearing :
    Hearing.refusals hearings hearing.link = hearing.requests.filter (!·.granted) := by
  unfold Hearing.refusals
  rw [← requests_of_hearing distinct labelled hears member, List.filter_filter]

end Parts

theorem Orderly.drains (orderly : roads.Orderly) (laws : Quantity.Rationed α)
    (nobody : roads.anySeeps = false) (distinct : (hearings.map (·.link)).Nodup)
    (hears : ∀ hearing ∈ hearings, ∃ queue, roads.Hears junction hearing queue) {rooms : Rooms α}
    (answers : roads.Answers rooms (hearings.flatMap (·.requests)) left)
    (member : hearing ∈ hearings) (node : NodeId) :
    ∃ queue, roads.queue? hearing.link = some queue ∧
      roads.Drains junction (.ofHearings node hearings) hearings left hearing.link queue := by
  obtain ⟨queue, present, refused, before, after, serves, reports⟩ := hears hearing member
  have gone := gone_of_hearing distinct orderly.labelled hears member node
  have recorded := recorded_of_hearing distinct orderly.labelled hears member node
  have refusals := refusals_of_hearing distinct orderly.labelled hears member
  have turnedAway := reports.turnedAway
  rw [← refusals] at turnedAway
  have exhausts := serves.exhausts laws nobody rfl
    (orderly.defined hearing.link queue present) (orderly.sized hearing.link queue present)
  refine ⟨queue, present, ?_⟩
  cases exhausts with
  | all left silent =>
      rw [← gone] at left
      rw [← recorded] at silent
      have granted := List.map_eq_nil_iff.mp turnedAway
      refine ⟨⟨[], ?_⟩, fun _ => ⟨left.symm, silent⟩, ?_⟩
      · rw [List.append_nil]
        exact left.symm
      · rw [granted]
        exact List.forall_mem_nil _
  | @upTo vehicle rest left one =>
      rw [← gone] at left
      rw [← recorded] at one
      obtain ⟨request, only, rfl⟩ := List.map_eq_singleton_iff.mp turnedAway
      refine ⟨⟨_, left.symm⟩, fun ended => ?_, ?_⟩
      · rw [ended] at only
        cases only
      · rw [only, List.forall_mem_singleton]
        have listed : request ∈ hearing.requests.filter (!·.granted) := by
          rw [← refusals, only]
          exact List.mem_singleton_self request
        obtain ⟨made, denied⟩ := List.mem_filter.mp listed
        have named := orderly.labelled hearing.link queue present
        have asked := (reports.asked request made).2
        rw [named] at asked
        refine ⟨rfl, reports.inOrder.mem (List.mem_map_of_mem made), asked, ⟨rest, left⟩, one, ?_⟩
        apply answers.full_left laws (sized_of_hearings orderly.sized hears)
        · exact List.mem_flatMap.mpr ⟨hearing, member, made⟩
        · simpa using denied

theorem rejections_of_hearings
    (hears : ∀ hearing ∈ hearings, ∃ queue, roads.Hears junction hearing queue) (node : NodeId) :
    (NodeDecision.ofHearings node hearings).rejections =
      ((hearings.flatMap (·.requests)).filter (!·.granted)).length := by
  induction hearings with
  | nil => rfl
  | cons hearing rest ih =>
      obtain ⟨⟨queue, -, refused, _, _, -, reports⟩, others⟩ := List.forall_mem_cons.mp hears
      have first : hearing.plan.rejections = (hearing.requests.filter (!·.granted)).length := by
        rw [reports.rejections, ← reports.turnedAway, List.length_map]
      have later : (rest.map (·.plan.rejections)).sum = _ := ih others
      change ((hearing :: rest).map (·.plan.rejections)).sum = _
      rw [List.map_cons, List.sum_cons, first, later, List.flatMap_cons, List.filter_append,
        List.length_append]

/-- Where nobody seeps, each inbound link of a node gives up the ready vehicles in their order. -/
theorem Orderly.drains_of_hear (orderly : roads.Orderly) (laws : Quantity.Rationed α)
    (nobody : roads.anySeeps = false) {network : Network α} {population : Population}
    {context : RouteContext} {node : NodeId}
    (heard : roads.hear network population context node = .ok (hearings, left)) :
    ∃ inbound, roads.inbound? node = some inbound ∧
      (NodeDecision.ofHearings node hearings).rejections =
        ((hearings.flatMap (·.requests)).filter (!·.granted)).length ∧
      ∀ link ∈ inbound, ∃ queue, roads.queue? link = some queue ∧
        roads.Drains ⟨node, network, population, context⟩ (.ofHearings node hearings) hearings
          left link queue := by
  obtain ⟨outgoing, inbound, rooms, leaving, coming, opened, served⟩ := hear_eq_ok.mp heard
  obtain ⟨names, hears, answers⟩ := hears_of_hearLinks served
  refine ⟨inbound, coming, rejections_of_hearings hears node, ?_⟩
  intro link listed
  have distinct := orderly.distinct node inbound coming
  rw [← names] at listed distinct
  obtain ⟨hearing, member, rfl⟩ := List.mem_map.mp listed
  exact orderly.drains laws nobody distinct hears answers member node

/-- Where nobody seeps, a node wastes nothing: from each inbound link it lets the ready vehicles
go in their order, and all of them unless one is turned away for whom there is no room left even
when all inbound links have been served. -/
theorem decide_drains {network : Network α} {population : Population} {context : RouteContext}
    {node : NodeId} (laws : Quantity.Rationed α) (orderly : roads.Orderly)
    (nobody : roads.anySeeps = false)
    (decided : roads.decide network population context node = .ok decision) :
    ∃ inbound hearings left,
      roads.inbound? node = some inbound ∧
      roads.hear network population context node = .ok (hearings, left) ∧
      decision = .ofHearings node hearings ∧
      decision.rejections = ((hearings.flatMap (·.requests)).filter (!·.granted)).length ∧
      ∀ link ∈ inbound, ∃ queue, roads.queue? link = some queue ∧
        roads.Drains ⟨node, network, population, context⟩ decision hearings left link queue := by
  obtain ⟨hearings, left, heard, rfl⟩ := decide_eq_ok_iff_hear.mp decided
  obtain ⟨inbound, coming, rejections, drains⟩ := orderly.drains_of_hear laws nobody heard
  exact ⟨inbound, hearings, left, coming, heard, rfl, rejections, drains⟩

end Roads

/-- Of four vehicles that are ready on two links, two fill up the link ahead of them. -/
theorem Bottleneck.decide_drains_of_four :
    ∃ (roads : Roads Rat) (network : Network Rat) (population : Population)
      (context : RouteContext) (decision : NodeDecision) (inbound : List LinkId)
      (hearings : List (Hearing Rat)) (left : Rooms Rat),
      roads.Orderly ∧ roads.anySeeps = false ∧
      roads.decide network population context ⟨1⟩ = .ok decision ∧ inbound = [entry, ⟨2⟩] ∧
      decision.gone entry = [⟨0⟩, ⟨1⟩] ∧ decision.recorded entry = [⟨3⟩] ∧
      decision.gone ⟨2⟩ = [] ∧ decision.recorded ⟨2⟩ = [⟨2⟩] ∧
      ∀ link ∈ inbound, ∃ queue, roads.queue? link = some queue ∧
        roads.Drains ⟨⟨1⟩, network, population, context⟩ decision hearings left link queue := by
  have ran : drive? { draft with links := draft.links.push (link "side" 2 1 10) }
      [(narrow, 0, [entry, exit]), (wide, 0, [entry, exit]), (wide, 0, [⟨2⟩, exit]),
        (narrow, 0, [entry, exit])]
      (fun network population => { setup network population with dynamics := {} }) 1
      (fun _ _ _ sim =>
        (sim.world.roads.decide sim.world.network sim.world.population
          (sim.world.context sim.flowPermanent) ⟨1⟩).toOption.map
            fun (decision : NodeDecision) =>
            (decide sim.world.roads.Orderly, sim.world.roads.anySeeps,
              sim.world.roads.inbound? ⟨1⟩, [decision.gone entry, decision.recorded entry,
                decision.gone ⟨2⟩, decision.recorded ⟨2⟩])) =
      some (true, false, some [entry, ⟨2⟩], [[⟨0⟩, ⟨1⟩], [⟨3⟩], [], [⟨2⟩]]) := by decide +kernel
  obtain ⟨_, _, _, sim, _, -, -, -, -, -, seen⟩ := exists_of_drive? ran
  simp only [Option.map_eq_some_iff, Attempt.toOption_eq_some, Prod.mk.injEq, List.cons.injEq,
    and_true, decide_eq_true_eq] at seen
  obtain ⟨decision, decided, orderly, nobody, coming, gone, recorded, gone', recorded'⟩ := seen
  obtain ⟨inbound, hearings, left, coming', -, -, -, drains⟩ :=
    Roads.decide_drains Quantity.rationed_rat orderly nobody decided
  cases coming.symm.trans coming'
  exact ⟨sim.world.roads, sim.world.network, sim.world.population, _, decision, _, hearings, left,
    orderly, nobody, decided, rfl, gone, recorded, gone', recorded', drains⟩

/-- In every interval of every run without seepage, each node drains its inbound links. -/
theorem Sim.Run.exists_drains {σ : Type} {setup : SimSetup Rat σ} {start sim : Sim Rat σ}
    {history : List (Interval Rat)} (sensible : setup.Sensible)
    (built : setup.build = .ok start) (nobody : setup.dynamics.seepage = none)
    (run : Sim.Run start history sim) :
    ∃ course, sim.world.Prepares sim.flowPermanent setup.config.tickSecs course ∧
      ∀ decision ∈ course.decisions, ∃ inbound hearings left,
        course.midway.roads.inbound? decision.node = some inbound ∧
        decision = .ofHearings decision.node hearings ∧
        ∀ link ∈ inbound, ∃ queue, course.midway.roads.queue? link = some queue ∧
          course.midway.roads.Drains ⟨decision.node, course.changed.network,
            course.midway.population, course.changed.context sim.flowPermanent⟩ decision
            hearings left link queue := by
  obtain ⟨journeys, poised⟩ := World.Poised.of_run sensible built run.world
  obtain ⟨links, connected⟩ := sensible.connected
  obtain ⟨course, prepares⟩ | ⟨tick, -, ⟨⟩, -⟩ :=
    poised.prepares_or_runsOut (Network.sound_of_build connected) sim.flowPermanent
  refine ⟨course, prepares, fun decision member => ?_⟩
  have rules := (Enduring.rules sim.world.roads).steps
    ((Enduring.rules sim.world.roads).refilled rfl prepares.changed) prepares.departed
  have quiet : course.midway.roads.anySeeps = false := by
    refine Roads.anySeeps_eq_false fun mode => ?_
    rw [Roads.seeps_eq_of_rules rules, ← Bool.not_eq_true, run.seeps_iff built]
    rintro ⟨seepage, type, given, -⟩
    cases nobody.symm.trans given
  have orderly := Roads.orderly_of_prepares prepares
  obtain ⟨node, -, decided⟩ := Attempt.exists_of_mem_mapM prepares.decided member
  obtain ⟨hearings, left, heard, rfl⟩ := Roads.decide_eq_ok_iff_hear.mp decided
  obtain ⟨inbound, coming, -, drains⟩ :=
    orderly.drains_of_hear Quantity.rationed_rat quiet heard
  exact ⟨inbound, hearings, left, coming, rfl, drains⟩

end MixedTraffic

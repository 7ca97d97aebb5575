import MixedTraffic.Proofs.Run.Exchange
import MixedTraffic.Proofs.Run.Progress

namespace MixedTraffic

/-! All nodes decide before anything that they have decided is carried out. Then it can be
carried out in whatever order of the nodes, and always comes to the same. -/

/-- The events of a node when its decision is carried out. -/
def NodeDecision.events (decision : NodeDecision) (now : Tick) : List Event :=
  decision.orders.flatMap (·.events now)

section Nodes

variable {α : Type} [Quantity α] {network : Network α} {population : Population}
  {context : RouteContext} {roads : Roads α} {traffic : Traffic α} {node : NodeId}
  {decision : NodeDecision} {decisions decisions' : List NodeDecision} {tickSecs : Nat}

/-- That what a node decides is about its own links: vehicles leave links that lead to it, for
links that lead away from it. -/
structure NodeDecision.Belongs (decision : NodeDecision) (network : Network α) (node : NodeId) :
    Prop where
  served : ∀ happening ∈ decision.orders, ∀ link ∈ happening.served?,
    ∃ attributes, network.link? link = some attributes ∧ attributes.finish = node
  entering : ∀ happening ∈ decision.orders, ∀ link ∈ happening.enters?,
    ∃ attributes, network.link? link = some attributes ∧ attributes.start = node

theorem Roads.belongs_of_decide
    (decided : roads.decide network population context node = .ok decision)
    (sound : network.Sound) (mirrors : roads.Mirrors tickSecs network)
    (labelled : roads.Labelled) : decision.Belongs network node := by
  obtain ⟨services, ⟨_, inbound, rooms, rooms', _, coming, _, serves⟩, rfl⟩ :=
    decide_eq_ok.mp decided
  obtain ⟨outgoing, again, opened, decides⟩ := decides_of_decide decided
  obtain rfl := Option.some.inj (coming.symm.trans decides.coming)
  have areLocal : ∀ service ∈ services, service.Local := by
    intro service member
    obtain ⟨queue, before, after, present, served⟩ := serves.serves_of_mem member
    exact served.isLocal labelled present
  have served : ∀ happening ∈ (NodeDecision.ofServices node services).orders,
      ∀ link ∈ happening.served?,
        ∃ attributes, network.link? link = some attributes ∧ attributes.finish = node := by
    intro happening ordered link served
    rw [← decides.mem_inbound sound mirrors, ← serves.map_link]
    by_contra absent
    have unserved : (NodeDecision.ofServices node services).orders.filter
        (·.served? = some link) = [] :=
      NodeDecision.filter_orders_of_notMem areLocal absent
    exact List.filter_eq_nil_iff.mp unserved happening ordered (decide_eq_true served)
  refine ⟨served, fun happening ordered target enters => ?_⟩
  obtain moved | marked := List.mem_append.mp ordered
  · obtain ⟨move, chosen, rfl⟩ := List.mem_map.mp moved
    obtain ⟨vehicle, agent, grounds⟩ := decides.grounds sound mirrors labelled chosen
    have goes : target ∈ move.target? := by
      cases move <;> exact enters
    obtain ⟨leading, following, found, there, start⟩ :=
      Network.isSuccessor?_eq_true.mp (grounds.joined target goes)
    obtain ⟨again, found', finish⟩ :=
      served _ ordered move.source (Happening.served?_ofMove move)
    cases found.symm.trans found'
    exact ⟨following, there, start.trans finish⟩
  · obtain ⟨entry, -, rfl⟩ := List.mem_map.mp marked
    cases enters

/-- Whatever one node at most decides about is the same in whatever order of the nodes. -/
theorem World.filter_orders_of_perm
    (decided : World.decideAll network context traffic = .ok decisions)
    (order : decisions'.Perm decisions) {part : Happening → Option LinkId} {link : LinkId}
    (own : ∀ first second : NodeId, ∀ one other : NodeDecision,
      traffic.roads.decide network traffic.population context first = .ok one →
      traffic.roads.decide network traffic.population context second = .ok other →
      (∃ happening ∈ one.orders, part happening = some link) →
      (∃ happening ∈ other.orders, part happening = some link) → first = second) :
    (decisions'.flatMap (·.orders)).filter (part · = some link) =
      (decisions.flatMap (·.orders)).filter (part · = some link) := by
  rw [List.filter_flatMap, List.filter_flatMap, List.flatMap_eq_foldl, List.flatMap_eq_foldl]
  -- Two decisions can change places, as only one of them says anything about the link.
  refine order.foldl_eq' (fun one member other member' said => ?_) []
  obtain ⟨first, -, decides⟩ := Attempt.exists_of_mem_mapM decided (order.mem_iff.mp member)
  obtain ⟨second, -, decides'⟩ := Attempt.exists_of_mem_mapM decided (order.mem_iff.mp member')
  by_cases about : ∃ happening ∈ one.orders, part happening = some link
  · by_cases about' : ∃ happening ∈ other.orders, part happening = some link
    · obtain rfl := own first second one other decides decides' about about'
      cases decides.symm.trans decides'
      rfl
    · have untouched : other.orders.filter (part · = some link) = [] := by
        simpa [List.filter_eq_nil_iff] using about'
      rw [untouched, List.append_nil, List.append_nil]
  · have untouched : one.orders.filter (part · = some link) = [] := by
      simpa [List.filter_eq_nil_iff] using about
    rw [untouched, List.append_nil, List.append_nil]

theorem World.agree_of_perm
    (decided : World.decideAll network context traffic = .ok decisions)
    (order : decisions'.Perm decisions) (sound : network.Sound)
    (mirrors : traffic.roads.Mirrors tickSecs network) (labelled : traffic.roads.Labelled)
    (link : LinkId) :
    Happening.Agree link (decisions.flatMap (·.orders)) (decisions'.flatMap (·.orders)) := by
  constructor
  · refine filter_orders_of_perm decided order fun first second one other decides decides' => ?_
    rintro ⟨happening, ordered, served⟩ ⟨happening', ordered', served'⟩
    obtain ⟨attributes, found, rfl⟩ := (Roads.belongs_of_decide decides sound mirrors
      labelled).served happening ordered link served
    obtain ⟨again, found', rfl⟩ := (Roads.belongs_of_decide decides' sound mirrors
      labelled).served happening' ordered' link served'
    cases found.symm.trans found'
    rfl
  · refine filter_orders_of_perm decided order fun first second one other decides decides' => ?_
    rintro ⟨happening, ordered, enters⟩ ⟨happening', ordered', enters'⟩
    obtain ⟨attributes, found, rfl⟩ := (Roads.belongs_of_decide decides sound mirrors
      labelled).entering happening ordered link enters
    obtain ⟨again, found', rfl⟩ := (Roads.belongs_of_decide decides' sound mirrors
      labelled).entering happening' ordered' link enters'
    cases found.symm.trans found'
    rfl

end Nodes

theorem World.commitAll_eq_ok {α : Type} [Quantity α] {table : ModeTable α}
    {context : RouteContext} {traffic final : Traffic α} {decisions : List NodeDecision} :
    World.commitAll context.now traffic decisions = .ok final ↔
      Traffic.Steps table context traffic (decisions.flatMap (·.orders)) final := by
  exact Traffic.commits_eq_ok

/-- What the nodes have decided can be carried out in whatever order of the nodes, and makes the
same of all roads and agents, where nobody seeps. Each node's events stay together. -/
theorem Traffic.AtBarrier.commitAll {network : Network Rat} {table : ModeTable Rat}
    {context : RouteContext} {traffic : Traffic Rat} {tickSecs : Nat} {pending : List AgentId}
    {decisions decisions' : List NodeDecision} (barrier : traffic.AtBarrier table pending)
    (sound : network.Sound) (mirrors : traffic.roads.Mirrors tickSecs network)
    (decided : World.decideAll network context traffic = .ok decisions)
    (order : decisions'.Perm decisions) :
    ∃ final final', World.commitAll context.now traffic decisions = .ok final ∧
      World.commitAll context.now traffic decisions' = .ok final' ∧
      final'.roads = final.roads ∧ final'.population = final.population ∧
      final.events.toList =
        traffic.events.toList ++ decisions.flatMap (·.events context.now) ∧
      final'.events.toList =
        traffic.events.toList ++ decisions'.flatMap (·.events context.now) := by
  have possible {decisions' : List NodeDecision} (order : decisions'.Perm decisions) :
      ∃ final, Traffic.Steps table context traffic (decisions'.flatMap (·.orders)) final :=
    @World.exists_commit network context traffic tickSecs decisions decisions' table pending
      (fun _ maySeep => maySeep = false) decided order sound mirrors barrier.placed
      barrier.accounted nofun fun _ => barrier.strict _
  obtain ⟨final, steps⟩ := possible (.refl decisions)
  obtain ⟨final', steps'⟩ := possible order
  have orders : (decisions'.flatMap (·.orders)).Perm (decisions.flatMap (·.orders)) :=
    order.flatMap_right _
  have distinct := World.nodup_touched decided sound mirrors barrier.placed
  have undue : ∀ happening ∈ decisions.flatMap (·.orders), happening.departure? = none := by
    intro happening ordered
    obtain ⟨decision, -, own⟩ := List.mem_flatMap.mp ordered
    exact Happening.departure?_of_mem_orders own
  refine ⟨final, final', World.commitAll_eq_ok.mpr steps, World.commitAll_eq_ok.mpr steps',
    barrier.roads_eq steps steps' orders distinct undue fun link =>
      World.agree_of_perm decided order sound mirrors barrier.placed.labelled link,
    steps.population_eq steps' orders distinct, ?_, ?_⟩
  · rw [steps.events, List.flatMap_assoc]
    rfl
  · rw [steps'.events, List.flatMap_assoc]
    rfl

theorem World.Regular.atBarrier {world changed : World Rat} {first : Network Rat}
    {table : ModeTable Rat} {secs : Nat} {pcuOf : AgentId → Rat} {context : RouteContext}
    {departures : List Happening} {midway : Traffic Rat} (regular : world.Regular first secs)
    (accounted : world.roads.Accounted) (strict : ∀ mode, world.roads.seeps mode = false)
    (measured : world.Measured table secs pcuOf) (made : world.applyChanges = .ok changed)
    (departed : Traffic.Steps table context changed.refilled departures midway) :
    ∃ pending, midway.AtBarrier table pending := by
  have placed := regular.placed.traffic.of_perm (.refl _) (refilled_like made)
    (applyChanges_revises made).population
  have weighs := (measured.refilled made).steps placed.labelled departed
  have rules := (Enduring.rules world.roads).steps
    ((Enduring.rules world.roads).refilled rfl made) departed
  obtain rfl := weighs.population
  refine ⟨_, placed.steps departed, ?_, ?_, fun mode => ?_, weighs⟩
  · exact departed.preserves (fun traffic => traffic.roads.InLine) Traffic.Step.inLine
      (regular.inLine.of_lineups (refilled_lineups made))
  · exact Roads.Accounted.enduring.steps (Roads.Accounted.enduring.refilled accounted made)
      departed
  · rw [Roads.seeps_eq_of_rules rules, strict]

/-- In every interval of every run without seepage, what the nodes have decided can be carried
out in whatever order of the nodes. The roads, the agents and, up to the order of the nodes,
the events are always the same. -/
theorem Sim.Run.commits_in_any_order {σ : Type} {setup : SimSetup Rat σ}
    {start sim : Sim Rat σ} {history : List (Interval Rat)} {roads : NetworkDraft Rat}
    {draft : PopulationDraft} {table : ModeTable Rat}
    (connected : roads.build = .ok setup.network) (drafted : draft.Drafted)
    (populated : draft.build table = .ok setup.population) (built : setup.build = .ok start)
    (run : Sim.Run start history sim) (strict : setup.dynamics.seepage = none)
    {world : World Rat} (changed : sim.world.applyChanges = .ok world)
    {outcomes : List (AgentId × DepartureOutcome)} {midway : Traffic Rat} {calendar : Calendar}
    (departed : { world with roads := world.roads.refill }.departures?
      (sim.world.context sim.flowPermanent) = .ok (outcomes, midway, calendar))
    {decisions decisions' : List NodeDecision}
    (decided : World.decideAll world.network (sim.world.context sim.flowPermanent) midway =
      .ok decisions)
    (order : decisions'.Perm decisions) :
    ∃ final final',
      World.commitAll sim.world.clock.now midway decisions = .ok final ∧
      World.commitAll sim.world.clock.now midway decisions' = .ok final' ∧
      final'.roads = final.roads ∧ final'.population = final.population ∧
      final.events.toList =
        midway.events.toList ++ decisions.flatMap (·.events sim.world.clock.now) ∧
      final'.events.toList =
        midway.events.toList ++ decisions'.flatMap (·.events sim.world.clock.now) := by
  have fresh := drafted.fresh_of_build populated
  have sound := Network.sound_of_build connected
  have regular := (World.Regular.of_build built fresh).run run.world
  have measured := (World.Measured.of_build connected built).run (.of_build built fresh) sound
    run.world
  have opened := (SimSetup.build_eq_ok built).opened
  have accounted := Roads.Accounted.enduring.run (Roads.accounted_ofNetwork opened) run.world
  have quiet (mode : ModeId) : sim.world.roads.seeps mode = false := by
    refine Bool.eq_false_iff.mpr fun seeps => ?_
    obtain ⟨seepage, type, given, -⟩ := (run.seeps_iff built mode).mp seeps
    rw [strict] at given
    cases given
  obtain ⟨-, -, ⟨departures, -, steps⟩, -⟩ := World.departures?_eq_ok.mp departed
  have rated : world.table = setup.table :=
    (World.applyChanges_revises changed).table.trans measured.rated
  change Traffic.Steps world.table _ world.refilled departures midway at steps
  rw [rated] at steps
  obtain ⟨pending, barrier⟩ := regular.atBarrier accounted quiet measured changed steps
  have charted := regular.charted.changed changed
  have mirrors : midway.roads.Mirrors setup.config.tickSecs world.network :=
    steps.preserves
      (fun traffic => traffic.roads.Mirrors setup.config.tickSecs world.network)
      Traffic.Step.mirrors charted.mirrors.refill
  have committed := barrier.commitAll (charted.alike.sound sound) mirrors decided order
  exact committed

/-- A vehicle arrives at the end of a link that another one is about to enter. -/
theorem Bottleneck.commits_in_any_order_of_two :
    ∃ network population start sim history world outcomes midway calendar decisions final
        final', draft.build = .ok network ∧
      (crowd [(narrow, 0, [entry, exit]), (wide, 0, [entry, exit]),
        (narrow, 0, [exit])]).build table = .ok population ∧
      { setup network population with dynamics := {} }.build = .ok start ∧
      Sim.Run start history sim ∧ sim.world.applyChanges = .ok world ∧
      { world with roads := world.roads.refill }.departures?
        (sim.world.context sim.flowPermanent) = .ok (outcomes, midway, calendar) ∧
      World.decideAll world.network (sim.world.context sim.flowPermanent) midway =
        .ok decisions ∧
      World.commitAll sim.world.clock.now midway decisions = .ok final ∧
      World.commitAll sim.world.clock.now midway decisions.reverse = .ok final' ∧
      final'.roads = final.roads ∧ final'.population = final.population ∧
      final.events.toList.map (·.agent) = [⟨2⟩, ⟨2⟩, ⟨0⟩, ⟨0⟩] ∧
      final'.events.toList.map (·.agent) = [⟨0⟩, ⟨0⟩, ⟨2⟩, ⟨2⟩] := by
  have ran : drive? draft [(narrow, 0, [entry, exit]), (wide, 0, [entry, exit]),
      (narrow, 0, [exit])]
      (fun network population => { setup network population with dynamics := {} }) 1
      (fun _ _ _ sim =>
        sim.world.applyChanges.toOption.bind fun (world : World Rat) =>
        (World.departures? { world with roads := world.roads.refill }
          (sim.world.context sim.flowPermanent)).toOption.bind fun (_, midway, _) =>
        (World.decideAll world.network (sim.world.context sim.flowPermanent)
          midway).toOption.bind fun decisions =>
        (World.commitAll sim.world.clock.now midway decisions).toOption.bind
          fun (final : Traffic Rat) =>
        (World.commitAll sim.world.clock.now midway decisions.reverse).toOption.map
          fun (final' : Traffic Rat) =>
            (final.events.toList.map Event.agent, final'.events.toList.map Event.agent)) =
      some ([⟨2⟩, ⟨2⟩, ⟨0⟩, ⟨0⟩], [⟨0⟩, ⟨0⟩, ⟨2⟩, ⟨2⟩]) := by decide +kernel
  obtain ⟨network, population, start, sim, history, connected, populated, built, -, run, seen⟩ :=
    exists_of_drive? ran
  simp only [Option.bind_eq_some_iff, Option.map_eq_some_iff, Attempt.toOption_eq_some,
    Prod.mk.injEq, Prod.exists] at seen
  obtain ⟨world, changed, outcomes, midway, calendar, departed, decisions, decided, final,
    committed, final', committed', heard, heard'⟩ := seen
  obtain ⟨one, other, same, same', roads, agents, -⟩ := Sim.Run.commits_in_any_order connected
    (crowd_drafted _) populated built run rfl changed departed decided decisions.reverse_perm
  cases committed.symm.trans same
  cases committed'.symm.trans same'
  exact ⟨network, population, start, sim, _, world, outcomes, midway, calendar, decisions, final,
    final', connected, populated, built, run, changed, departed, decided, committed, committed',
    roads, agents, heard, heard'⟩

end MixedTraffic

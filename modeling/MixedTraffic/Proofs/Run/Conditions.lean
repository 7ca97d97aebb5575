import Mathlib.Data.List.Permutation
import MixedTraffic.Proofs.Amendment
import MixedTraffic.Proofs.Road.Storage
import MixedTraffic.Proofs.Road.Terms
import MixedTraffic.Proofs.Run.Effect
import MixedTraffic.Proofs.Run.Moment
import MixedTraffic.Proofs.Run.Success

namespace MixedTraffic

variable {α : Type}

/-! The conditions on the roads through a run: in each interval, those that the changes made by
then have set. -/

theorem RunConfig.tickSecs_pos {config : RunConfig}
    (checked : config.check (α := α) = .ok ()) : 0 < config.tickSecs := by
  simp only [RunConfig.check, Attempt.bind_eq_ok, ConfigError.require_eq_ok] at checked
  obtain ⟨_, positive, -⟩ := checked
  exact Nat.pos_of_ne_zero (bne_iff_ne.mp positive)

variable [Quantity α]

/-- The attributes of a link that are in force at a second of the day. -/
structure Link.InForce (changes : List (NetworkChange α)) (link : LinkId) (secs : Nat)
    (initial attributes : Link α) : Prop where
  freeSpeed : NetworkChange.InForce changes NetworkChange.freeSpeed link secs
    initial.freeSpeed attributes.freeSpeed
  flowCapacity : NetworkChange.InForce changes NetworkChange.flowCapacity link secs
    initial.flowCapacity attributes.flowCapacity

/-- That a queue lets vehicles on and off as the attributes of its link say. -/
structure LinkQueue.Conforms (queue : LinkQueue α) (attributes : Link α) (table : ModeTable α)
    (tickSecs : Nat) : Prop where
  freeSpeed : queue.freeSpeed = attributes.freeSpeed
  flowBudget : queue.flowBudget = attributes.flowCapacity * (tickSecs : α) / ((3600 : Nat) : α)
  flowCeiling : queue.flowCeiling = Quantity.larger queue.flowBudget table.maxPcu

namespace Roads.Adopts

variable {roads : Roads α} {network : Network α} {table : ModeTable α} {tickSecs : Nat}

theorem exists_conforms (adopts : roads.Adopts tickSecs table network) {link : LinkId}
    {attributes : Link α} (found : network.link? link = some attributes) :
    ∃ queue, roads.queue? link = some queue ∧ queue.Conforms attributes table tickSecs := by
  have terms := adopts.terms link
  rw [found, Option.map_some, Option.map_eq_some_iff] at terms
  obtain ⟨queue, present, same⟩ := terms
  simp only [LinkQueue.terms, Link.terms, Prod.mk.injEq] at same
  obtain ⟨-, speed, budget, ceiling⟩ := same
  exact ⟨queue, present, speed, budget, budget ▸ ceiling⟩

theorem exists_prioritises (adopts : roads.Adopts tickSecs table network)
    (sound : network.Sound) (filed : network.Filed) (finite : network.Finite) {node : NodeId}
    (bound : node.index < network.nodes.size) :
    ∃ priority, roads.inbound? node = some priority ∧
      network.Prioritises roads.order node priority := by
  have size : (rankInbound roads.order network).size = network.nodes.size := by
    rw [← sound.incoming]
    unfold rankInbound
    split
    · rfl
    · exact Array.size_map
  have found := Array.getElem?_eq_getElem (size.symm ▸ bound)
  refine ⟨_, ?_, Network.prioritises_of_rankInbound sound filed finite found⟩
  rw [inbound?, adopts.inbound, found]

theorem step {context : RouteContext} {traffic traffic' : Traffic α} {happening : Happening}
    (adopts : traffic.roads.Adopts tickSecs table network)
    (step : Traffic.Step table context traffic happening traffic') :
    traffic'.roads.Adopts tickSecs table network := by
  refine adopts.congr (step.queues_map (fun _ _ => rfl) (fun _ _ _ => rfl) ?_) step.inbound
    (congrArg (·.1) step.rules)
  intro queue agent now
  unfold LinkQueue.markBlocked
  split <;> rfl

end Roads.Adopts

namespace World

variable {world world' : World α} {first : Network α} {changes : List (NetworkChange α)}
  {table : ModeTable α} {tickSecs : Nat}

theorem link?_of_foldlM (made : changes.foldlM applyChange world = .ok world') (key : LinkId) :
    world'.network.link? key =
      (world.network.link? key).map fun link => changes.foldl (NetworkChange.amend key) link := by
  induction changes generalizing world with
  | nil =>
      cases made
      exact Option.map_id'.symm
  | cons change rest ih =>
      rw [List.foldlM_cons, Attempt.bind_eq_ok] at made
      obtain ⟨middle, changed, made⟩ := made
      obtain ⟨network, applied, rfl⟩ := applyChange_eq_ok.mp changed
      rw [ih made, Network.link?_apply applied, Option.map_map]
      rfl

/-- That the network of a world is the first one with those of the given changes made that
have come due, and that its roads are used on its terms. -/
structure Amended (world : World α) (first : Network α) (changes : List (NetworkChange α))
    (table : ModeTable α) (tickSecs : Nat) : Prop where
  modes : world.table = table
  made : ∃ made, SimSetup.sortChanges changes = made ++ world.changes ∧
    (∀ change ∈ made, world.isDue change = true) ∧
    ∀ key, world.network.link? key =
      (first.link? key).map fun link => made.foldl (NetworkChange.amend key) link
  alike : world.network.Alike first
  finite : world.network.Finite
  adopts : world.roads.Adopts tickSecs table world.network

namespace Amended

theorem of_build {σ : Type} {setup : SimSetup α σ} {start : Sim α σ} {draft : NetworkDraft α}
    (connected : draft.build = .ok setup.network) (built : setup.build = .ok start) :
    start.world.Amended setup.network setup.changes setup.table setup.config.tickSecs := by
  obtain ⟨roads, opened, world⟩ := (SimSetup.build_eq_ok built).world
  rw [world]
  refine ⟨rfl, ⟨[], rfl, List.forall_mem_nil _, fun key => ?_⟩, .refl _,
    Network.finite_of_build connected, .of_ofNetwork opened⟩
  exact Option.map_id'.symm

/-- Once the changes that have come due are made, all that are due have been made. -/
theorem changed (amended : world.Amended first changes table tickSecs)
    (made : world.applyChanges = .ok world') :
    world'.Amended first changes table tickSecs ∧ ∀ key, world'.network.link? key =
      (first.link? key).map fun link =>
        ((SimSetup.sortChanges changes).takeWhile world.isDue).foldl (NetworkChange.amend key)
          link := by
  obtain ⟨modes, ⟨earlier, split, due, links⟩, alike, finite, adopts⟩ := amended
  have revises := applyChanges_revises made
  have kept := foldlM_applyChange_preserves
    (fun network roads => network.Alike first ∧ network.Finite ∧
      roads.Adopts tickSecs table network)
    (fun _ _ _ _ _ held applied => ⟨(Network.alike_apply applied).trans held.1,
      held.2.1.apply applied, modes ▸ held.2.2.refresh applied⟩)
    ⟨alike, finite, adopts⟩ made
  have network : ∀ key, world'.network.link? key = (first.link? key).map fun link =>
      (earlier ++ world.changes.takeWhile world.isDue).foldl (NetworkChange.amend key) link := by
    intro key
    rw [link?_of_foldlM made, links, Option.map_map]
    simp only [List.foldl_append, Function.comp_def]
  have sameDue : world'.isDue = world.isDue := by
    funext change
    rw [isDue, revises.clock, isDue]
  refine ⟨⟨revises.table.trans modes, ⟨_, ?_, ?_, network⟩, kept.1, kept.2.1, kept.2.2⟩, ?_⟩
  · rw [changes_of_applyChanges made, List.append_assoc, List.takeWhile_append_dropWhile, split]
  · rw [sameDue]
    intro change listed
    obtain listed | listed := List.mem_append.mp listed
    · exact due change listed
    · exact List.mem_takeWhile_imp listed
  · rwa [split, List.takeWhile_append_of_pos due]

theorem interval {flowPermanent : Bool} {interval : Interval α}
    (amended : world.Amended first changes table tickSecs)
    (simulated : world.interval flowPermanent = .ok interval) :
    interval.next.Amended first changes table tickSecs := by
  obtain ⟨course, follows, rfl⟩ := interval_eq_ok.mp simulated
  obtain ⟨modes, ⟨made, split, due, links⟩, alike, finite, adopts⟩ :=
    (amended.changed follows.changed).1
  refine ⟨modes, ⟨made, split, fun change listed => ?_, links⟩, alike, finite, ?_⟩
  · have reached := of_decide_eq_true (due change listed)
    exact decide_eq_true (Nat.le_succ_of_le reached)
  · exact follows.steps.preserves (fun traffic => traffic.roads.Adopts tickSecs table
      course.changed.network) (fun held step => held.step (modes ▸ step)) adopts.refill

theorem run {history : List (Interval α)} (amended : world.Amended first changes table tickSecs)
    (run : World.Run world history world') : world'.Amended first changes table tickSecs :=
  run.preserves (·.Amended first changes table tickSecs)
    (fun held simulated => held.interval simulated) amended

/-- The attributes of each link are those in force at the beginning of the interval. -/
theorem exists_inForce (amended : world.Amended first changes table tickSecs)
    (positive : 0 < world.clock.tickSecs) (made : world.applyChanges = .ok world')
    {link : LinkId} {initial : Link α} (found : first.link? link = some initial) :
    ∃ attributes, world'.network.link? link = some attributes ∧
      Link.InForce changes link (world.clock.secsAt world.clock.now) initial attributes := by
  have network := (amended.changed made).2 link
  rw [found, Option.map_some] at network
  have due : world.isDue = fun change =>
      decide (change.atSecs ≤ world.clock.secsAt world.clock.now) := by
    funext change
    rw [isDue, decide_eq_decide, Clock.tickAtOrAfter_le_iff positive]
  refine ⟨_, network, ?_, ?_⟩
  · rw [NetworkChange.freeSpeed_foldl_amend, due]
    exact SimSetup.inForce_foldl_put ..
  · rw [NetworkChange.flowCapacity_foldl_amend, due]
    exact SimSetup.inForce_foldl_put ..

theorem exists_changed (amended : world.Amended first changes table tickSecs)
    (valid : ∀ change ∈ changes, change.check first = .ok ()) :
    ∃ world', world.applyChanges = .ok world' := by
  obtain ⟨-, ⟨made, split, -⟩, alike, -⟩ := amended
  apply exists_changes
  intro change listed
  have given : change ∈ SimSetup.sortChanges changes :=
    split ▸ List.mem_append_right _ ((List.takeWhile_prefix _).subset listed)
  exact alike.check (valid change (List.mem_mergeSort.mp given))

end Amended

/-- Vehicles that have been on a link before an interval stay there as they were, their exit
included, until they leave it. -/
theorem Placed.mem_vehicles {context : RouteContext} {happenings : List Happening}
    {traffic : Traffic α} {link : LinkId} {before queue : LinkQueue α} (placed : world.Placed)
    (made : world.applyChanges = .ok world')
    (steps : Traffic.Steps table context world'.refilled happenings traffic)
    (there : world.roads.queue? link = some before)
    (present : traffic.roads.queue? link = some queue) :
    ∀ vehicle ∈ before.vehicles, Happening.Remains link happenings vehicle.agent →
      vehicle ∈ queue.vehicles := by
  have like := refilled_like made
  have start : world'.refilled.Placed world.departures.entries :=
    placed.traffic.of_perm (.refl _) like (applyChanges_revises made).population
  obtain ⟨middle, refilled, same⟩ := Roads.lineup_of_lineups (refilled_lineups made).symm there
  obtain ⟨queue', present', becomes⟩ := steps.becomes start refilled
  cases present.symm.trans present'
  have vehicles : before.vehicles = middle.vehicles := congrArg Lineup.vehicles same
  intro vehicle member
  exact becomes.stays vehicle (vehicles ▸ member)

end World

/-- In each interval, the free speed and the flow capacity of every link are those in force at
its beginning, and until its end the queue of the link and the priorities of all nodes agree
with them. Vehicles that are on the link keep the exits that they have. -/
theorem Sim.Run.conditions_in_force {σ : Type} {setup : SimSetup α σ} {start sim : Sim α σ}
    {history : List (Interval α)} {roads : NetworkDraft α} {draft : PopulationDraft}
    {table : ModeTable α} (connected : roads.build = .ok setup.network)
    (drafted : draft.Drafted) (populated : draft.build table = .ok setup.population)
    (built : setup.build = .ok start) (run : Sim.Run start history sim) :
    ∃ changed, sim.world.applyChanges = .ok changed ∧
      (∀ link initial, setup.network.link? link = some initial →
        ∃ attributes, changed.network.link? link = some attributes ∧
          Link.InForce setup.changes link (setup.config.clock.secsAt sim.now) initial
            attributes ∧
          ∀ context happenings traffic,
            Traffic.Steps changed.table context changed.refilled happenings traffic →
              ∃ queue, traffic.roads.queue? link = some queue ∧
                queue.Conforms attributes setup.table setup.config.tickSecs ∧
                ∀ before, sim.world.roads.queue? link = some before →
                  ∀ vehicle ∈ before.vehicles,
                    Happening.Remains link happenings vehicle.agent →
                      vehicle ∈ queue.vehicles) ∧
      ∀ node : NodeId, node.index < setup.network.nodes.size →
        ∀ context happenings traffic,
          Traffic.Steps changed.table context changed.refilled happenings traffic →
            ∃ priority, traffic.roads.inbound? node = some priority ∧
              changed.network.Prioritises setup.dynamics.inboundOrder node priority := by
  have starts := SimSetup.build_eq_ok built
  have amended := (World.Amended.of_build connected built).run run.world
  have placed := (World.Placed.of_build built (drafted.fresh_of_build populated)).run run.world
  obtain ⟨changed, made⟩ := amended.exists_changed starts.changes
  have revised := (amended.changed made).1
  have clock : sim.world.clock = { setup.config.clock with now := sim.now } := by
    obtain ⟨_, -, world⟩ := starts.world
    rw [Sim.now, run.world.clock, world]
  have positive : 0 < sim.world.clock.tickSecs := by
    rw [clock]
    exact RunConfig.tickSecs_pos starts.config
  have adopts {context : RouteContext} {happenings : List Happening} {traffic : Traffic α}
      (steps : Traffic.Steps changed.table context changed.refilled happenings traffic) :
      traffic.roads.Adopts setup.config.tickSecs setup.table changed.network :=
    steps.preserves (fun traffic => traffic.roads.Adopts setup.config.tickSecs setup.table
      changed.network) (fun held step => held.step (revised.modes ▸ step)) revised.adopts.refill
  refine ⟨changed, made, fun link initial found => ?_, fun node bound context happenings traffic
    steps => ?_⟩
  · obtain ⟨attributes, known, inForce⟩ := amended.exists_inForce positive made found
    rw [clock] at inForce
    refine ⟨attributes, known, inForce, fun context happenings traffic steps => ?_⟩
    obtain ⟨queue, present, conforms⟩ := (adopts steps).exists_conforms known
    exact ⟨queue, present, conforms, fun before there =>
      placed.mem_vehicles made steps there present⟩
  · have sound := revised.alike.sound (Network.sound_of_build connected)
    have filed := (Network.filed_of_build connected).of_alike revised.alike
    rw [← revised.alike.nodes] at bound
    obtain ⟨priority, present, prioritises⟩ :=
      (adopts steps).exists_prioritises sound filed revised.finite bound
    have rules := Enduring.rules (α := α) start.world.roads
    have same := rules.steps (rules.refilled (rules.run rfl run.world) made) steps
    have initial : start.world.roads.order = setup.dynamics.inboundOrder := by
      rw [(Roads.ofNetwork_eq_ok.mp starts.opened).2]
    have order := (congrArg (·.1) same).trans initial
    exact ⟨priority, present, order ▸ prioritises⟩

/-- Of two links the one with the larger capacity is served first. -/
theorem Network.Prioritises.eq_of_less {network : Network Rat} {node : NodeId}
    {large small : LinkId} {priority : List LinkId}
    (prioritises : network.Prioritises .byCapacity node priority)
    (perm : priority.Perm [large, small])
    (less : Roads.capacityOf network small < Roads.capacityOf network large) :
    priority = [large, small] := by
  have ranked := prioritises.byCapacity rfl Quantity.ranked_rat
  obtain same | rfl := List.perm_pair.mp perm
  · exact same
  · obtain more | ⟨still, -⟩ := List.rel_of_pairwise_cons ranked List.mem_cons_self
    · exact absurd less more.asymm
    · exact absurd less still

/-- Of the changes of one link the latest are in force, and it has fallen behind another that
ends at the same node. -/
theorem Bottleneck.conditions_in_force_of_four :
    ∃ network population start sim history initial changed attributes queue priority,
      { draft with links := draft.links.push (link "side" 2 1 10) }.build = .ok network ∧
      (crowd [(narrow, 0, [entry, exit])]).build table = .ok population ∧
      { setup network population with
        dynamics := { inboundOrder := .byCapacity }
        changes := [⟨2, entry, some 5, none⟩, ⟨1, entry, some 2, some 7200⟩,
          ⟨2, entry, none, some 3600⟩, ⟨2, entry, some 4, none⟩] }.build = .ok start ∧
      Sim.Run start history sim ∧ sim.now = 2 ∧
      network.link? entry = some initial ∧ initial.freeSpeed = 10 ∧
      sim.world.applyChanges = .ok changed ∧
      changed.network.link? entry = some attributes ∧
      attributes.freeSpeed = 4 ∧ attributes.flowCapacity = 3600 ∧
      Link.InForce [⟨2, entry, some 5, none⟩, ⟨1, entry, some 2, some 7200⟩,
        ⟨2, entry, none, some 3600⟩, ⟨2, entry, some 4, none⟩] entry 2 initial attributes ∧
      changed.refilled.roads.queue? entry = some queue ∧ queue.Conforms attributes table 1 ∧
      changed.refilled.roads.inbound? ⟨1⟩ = some priority ∧ priority = [⟨2⟩, entry] ∧
      priority.Pairwise changed.network.Outranks := by
  have ran : drive? { draft with links := draft.links.push (link "side" 2 1 10) }
      [(narrow, 0, [entry, exit])]
      (fun network population => { setup network population with
        dynamics := { inboundOrder := .byCapacity }
        changes := [⟨2, entry, some 5, none⟩, ⟨1, entry, some 2, some 7200⟩,
          ⟨2, entry, none, some 3600⟩, ⟨2, entry, some 4, none⟩] }) 0
      (fun network _ _ _ =>
        (network.link? entry).bind fun (initial : Link Rat) =>
        (network.link? ⟨2⟩).map fun (side : Link Rat) =>
          (network.nodes.size, network.incoming? ⟨1⟩, network.isSuccessor? entry exit,
            [initial.freeSpeed, side.flowCapacity])) =
      some (3, some [entry, ⟨2⟩], some true, [10, 36000]) := by decide +kernel
  obtain ⟨network, population, start, _, _, connected, populated, built, -, -, seen⟩ :=
    exists_of_drive? ran
  simp only [Option.bind_eq_some_iff, Option.map_eq_some_iff, Prod.mk.injEq, List.cons.injEq,
    and_true] at seen
  obtain ⟨initial, found, side, beside, size, row, joined, slow, large⟩ := seen
  have strict : ({ inboundOrder := .byCapacity } : Dynamics Rat).SeepsNarrow table := by
    rintro mode other type type' - - ⟨seepage, _, given, -⟩
    cases given
  have orderly := orderly_of_crowd populated fun trip listed id => by
    cases List.mem_singleton.mp listed
    exact Driver.orderly_fixed (fun link first => by cases first; rw [found]; rfl)
      (List.isChain_pair.mpr joined)
  obtain ⟨history, sim, length, run⟩ :=
    Sim.exists_run ⟨⟨_, connected⟩, ⟨_, crowd_drafted _, populated⟩, orderly⟩ built strict 2
  obtain ⟨changed, made, links, nodes⟩ := Sim.Run.conditions_in_force connected
    (crowd_drafted _) populated built run
  have now : sim.now = 2 := by
    obtain ⟨_, -, world⟩ := (SimSetup.build_eq_ok built).world
    rw [Sim.now, run.world.clock, world, length]
    rfl
  obtain ⟨attributes, known, inForce, queues⟩ := links entry initial found
  obtain ⟨side', aside, untouched, -⟩ := links ⟨2⟩ side beside
  rw [now] at inForce
  obtain ⟨queue, here, conforms, -⟩ := queues {} [] changed.refilled .nil
  have speed : attributes.freeSpeed = 4 :=
    inForce.freeSpeed.unique <|
      .of_now (show [_, _, _, _][3]? = some _ from rfl) ⟨rfl, le_rfl, rfl⟩ (by simp)
  have capacity : attributes.flowCapacity = 3600 :=
    inForce.flowCapacity.unique <|
      .of_now (show [_, _, _, _][2]? = some _ from rfl) ⟨rfl, le_rfl, rfl⟩ (by simp)
  have apart : side'.flowCapacity = side.flowCapacity := by
    refine untouched.flowCapacity.unique (.initial fun change listed value sets => ?_)
    have own : change.link = entry := by
      simp only [List.mem_cons, List.not_mem_nil, or_false] at listed
      rcases listed with rfl | rfl | rfl | rfl <;> rfl
    exact absurd (own.symm.trans sets.own) (by decide)
  have bound : (⟨1⟩ : NodeId).index < network.nodes.size := by
    rw [size]
    decide
  obtain ⟨priority, present, prioritises⟩ := nodes ⟨1⟩ bound {} [] changed.refilled .nil
  have alike := (((World.Amended.of_build connected built).run run.world).changed made).1.alike
  have row' : changed.network.incoming? ⟨1⟩ = some [entry, ⟨2⟩] := by
    rw [Network.incoming?, alike.incoming]
    exact row
  have perm := prioritises.perm (alike.sound (Network.sound_of_build connected)) row'
  have order : priority = [⟨2⟩, entry] := by
    refine prioritises.eq_of_less (perm.trans (.swap ..)) ?_
    rw [Roads.capacityOf, Roads.capacityOf, known, aside]
    change attributes.flowCapacity < side'.flowCapacity
    rw [capacity, apart, large]
    norm_num
  exact ⟨network, population, start, sim, history, initial, changed, attributes, queue, priority,
    connected, populated, built, run, now, found, slow, made, known, speed, capacity, inForce,
    here, conforms, present, order, prioritises.byCapacity rfl Quantity.ranked_rat⟩

end MixedTraffic

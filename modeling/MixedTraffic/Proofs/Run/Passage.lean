import MixedTraffic.Proofs.Lists
import MixedTraffic.Proofs.Road.Service
import MixedTraffic.Proofs.Run.Effect
import MixedTraffic.Proofs.Run.Moment

namespace MixedTraffic

variable {α : Type}

/-! The passage of a world through one interval, with the services of all links. What happens
on a link after the departures is ordered by its one service, apart from the vehicles that
come onto it. -/

namespace Happening

def served? (happening : Happening) : Option LinkId := happening.leaves?.or happening.marks?

theorem served?_ofMove (move : Move) : (ofMove move).served? = some move.source := by
  cases move <;> rfl

theorem served?_ofMark (entry : LinkId × AgentId) : (ofMark entry).served? = some entry.1 := rfl

theorem served?_of_leaves? {happening : Happening} {link : LinkId}
    (leaves : happening.leaves? = some link) : happening.served? = some link := by
  rw [served?, leaves]
  rfl

end Happening

namespace Service

/-- The happenings that a service leads to. -/
def orders (service : Service α) : List Happening :=
  service.plan.moves.map .ofMove ++ service.marks.map .ofMark

def Local (service : Service α) : Prop :=
  ∀ move ∈ service.plan.moves, move.source = service.link

variable {service other : Service α} {services : List (Service α)}

theorem Local.served?_moves (isLocal : service.Local) :
    ∀ happening ∈ service.plan.moves.map Happening.ofMove,
      happening.served? = some service.link := by
  refine List.forall_mem_map.mpr fun move member => ?_
  rw [Happening.served?_ofMove, isLocal move member]

theorem served?_marks (service : Service α) :
    ∀ happening ∈ service.marks.map Happening.ofMark,
      happening.served? = some service.link := by
  refine List.forall_mem_map.mpr fun entry member => ?_
  rw [Happening.served?_ofMark, link_of_mem_marks member]

end Service

namespace NodeDecision

variable {node : NodeId} {service : Service α} {services : List (Service α)}

theorem orders_ofServices (node : NodeId) (services : List (Service α)) :
    (ofServices node services).orders =
      services.flatMap (fun service => service.plan.moves.map .ofMove) ++
        services.flatMap fun service => service.marks.map .ofMark := by
  rw [orders, ofServices, List.map_flatMap, List.map_flatMap]

theorem filter_orders_of_notMem (areLocal : ∀ service ∈ services, service.Local) {link : LinkId}
    (absent : link ∉ services.map (·.link)) :
    (ofServices node services).orders.filter (·.served? = some link) = [] := by
  have absent : some link ∉ services.map fun service => some service.link := by
    simpa using absent
  rw [orders_ofServices, List.filter_append,
    filter_flatMap_of_notMem
      (fun service member => Service.Local.served?_moves (areLocal service member)) absent,
    filter_flatMap_of_notMem (fun service _ => service.served?_marks) absent, List.append_nil]

theorem filter_orders_of_mem (areLocal : ∀ service ∈ services, service.Local)
    (once : (services.map (·.link)).Nodup) (member : service ∈ services) :
    (ofServices node services).orders.filter (·.served? = some service.link) =
      service.orders := by
  have once : (services.map fun service => some service.link).Nodup := by
    have paired := once.map (Option.some_injective _)
    rwa [List.map_map] at paired
  rw [orders_ofServices, List.filter_append,
    filter_flatMap_of_mem
      (fun service member => Service.Local.served?_moves (areLocal service member)) once member,
    filter_flatMap_of_mem (fun service _ => service.served?_marks) once member]
  rfl

end NodeDecision

theorem Roads.mem_servedLinks {roads : Roads α} {network : Network α} {tickSecs : Nat}
    (sound : network.Sound) (mirrors : roads.Mirrors tickSecs network) {link : LinkId}
    (present : (roads.queue? link).isSome) : link ∈ roads.servedLinks network := by
  rw [mirrors.isSome_queue?] at present
  obtain ⟨attributes, found⟩ := Option.isSome_iff_exists.mp present
  have bound := (sound.joined found).2
  obtain ⟨row, filed⟩ : ∃ row, network.incoming? attributes.finish = some row :=
    ⟨_, Array.getElem?_eq_getElem (sound.incoming ▸ bound)⟩
  have member := (sound.mem_incoming filed).mpr ⟨attributes, found, rfl⟩
  have ranked := mirrors.inbound attributes.finish
  rw [filed] at ranked
  refine List.mem_flatMap.mpr ⟨attributes.finish, ?_, ?_⟩
  · exact List.mem_map.mpr ⟨_, List.mem_range.mpr bound, rfl⟩
  · generalize roads.inbound? attributes.finish = served at ranked
    cases ranked with
    | some perm => exact perm.mem_iff.mpr member

section Filter

variable {nodes : List NodeId} {attended : List (List (Service α))} {service : Service α}

theorem NodeDecision.filter_orders_all_of_notMem
    (areLocal : ∀ service ∈ attended.flatten, service.Local) {link : LinkId}
    (absent : link ∉ attended.flatten.map (·.link)) :
    ((List.zipWith ofServices nodes attended).flatMap (·.orders)).filter
      (·.served? = some link) = [] := by
  induction attended generalizing nodes with
  | nil => simp
  | cons services attended ih =>
      rw [List.flatten_cons, List.forall_mem_append] at areLocal
      rw [List.flatten_cons, List.map_append, List.mem_append, not_or] at absent
      cases nodes with
      | nil => rfl
      | cons node nodes =>
          rw [List.zipWith_cons_cons, List.flatMap_cons, List.filter_append,
            filter_orders_of_notMem areLocal.1 absent.1, ih areLocal.2 absent.2, List.append_nil]

theorem NodeDecision.filter_orders_all_of_mem
    (areLocal : ∀ service ∈ attended.flatten, service.Local)
    (length : nodes.length = attended.length) (once : (attended.flatten.map (·.link)).Nodup)
    (member : service ∈ attended.flatten) :
    ((List.zipWith ofServices nodes attended).flatMap (·.orders)).filter
      (·.served? = some service.link) = service.orders := by
  induction attended generalizing nodes with
  | nil => cases member
  | cons services attended ih =>
      rw [List.flatten_cons, List.forall_mem_append] at areLocal
      rw [List.flatten_cons, List.map_append, List.nodup_append] at once
      rw [List.flatten_cons, List.mem_append] at member
      obtain ⟨here, there, apart⟩ := once
      cases nodes with
      | nil => cases length
      | cons node nodes =>
          rw [List.zipWith_cons_cons, List.flatMap_cons, List.filter_append]
          obtain own | other := member
          · have absent : service.link ∉ attended.flatten.map (·.link) := fun again =>
              apart _ (List.mem_map_of_mem own) _ again rfl
            rw [filter_orders_of_mem areLocal.1 here own,
              filter_orders_all_of_notMem areLocal.2 absent, List.append_nil]
          · have absent : service.link ∉ services.map (·.link) := fun again =>
              apart _ again _ (List.mem_map_of_mem other) rfl
            rw [filter_orders_of_notMem areLocal.1 absent, List.nil_append,
              ih areLocal.2 (Nat.succ.inj length) there other]

end Filter

variable [Quantity α]

namespace Roads

variable {roads : Roads α} {network : Network α} {population : Population}
  {context : RouteContext} {nodes : List NodeId} {attended : List (List (Service α))}
  {service : Service α}

theorem map_link_of_attends
    (attends : List.Forall₂ (roads.Attends network population context) nodes attended) :
    attended.flatten.map (·.link) = nodes.flatMap fun node => (roads.inbound? node).getD [] := by
  induction attends with
  | nil => rfl
  | cons attends _ ih =>
      obtain ⟨outgoing, inbound, rooms, rooms', -, coming, -, serves⟩ := attends
      rw [List.flatten_cons, List.map_append, List.flatMap_cons, ih, serves.map_link, coming]
      rfl

theorem exists_attends_of_mem
    (attends : List.Forall₂ (roads.Attends network population context) nodes attended)
    (member : service ∈ attended.flatten) :
    ∃ node services, roads.Attends network population context node services ∧
      service ∈ services := by
  induction attends with
  | nil => cases member
  | cons attends _ ih =>
      rw [List.flatten_cons, List.mem_append] at member
      obtain here | later := member
      · exact ⟨_, _, attends, here⟩
      · exact ih later

theorem serves_of_attends
    (attends : List.Forall₂ (roads.Attends network population context) nodes attended)
    (member : service ∈ attended.flatten) :
    ∃ node queue before after, roads.queue? service.link = some queue ∧
      roads.Serves ⟨node, network, population, context⟩ queue queue.accumulator false before
        queue.vehicles service.plan service.refused after := by
  obtain ⟨node, services, ⟨_, _, _, _, -, -, -, serves⟩, here⟩ :=
    exists_attends_of_mem attends member
  exact ⟨node, serves.serves_of_mem here⟩

theorem Serves.isLocal {junction : Junction α} {queue : LinkQueue α} {accumulator : α}
    {held : Bool} {rooms rooms' : Rooms α}
    (serves : roads.Serves junction queue accumulator held rooms queue.vehicles service.plan
      service.refused rooms')
    (labelled : roads.Labelled) (present : roads.queue? service.link = some queue) :
    service.Local := by
  intro move listed
  rw [(serves.chooses.grounds listed).1, labelled _ _ present]

end Roads

/-- The passage of a world through one interval. -/
structure Passage (α : Type) [Quantity α] where
  world : World α
  flowPermanent : Bool
  course : Course α
  follows : course.Follows world flowPermanent
  /-- Per node, the services of its inbound links. -/
  attended : List (List (Service α))
  attends : List.Forall₂ (course.midway.roads.Attends course.changed.network
    course.midway.population (course.changed.context flowPermanent))
    course.changed.network.nodeKeys attended
  decided : course.decisions =
    List.zipWith .ofServices course.changed.network.nodeKeys attended

namespace Passage

def tick (passage : Passage α) : Tick := passage.world.clock.now

def interval (passage : Passage α) : Interval α := passage.course.interval

def services (passage : Passage α) : List (Service α) := passage.attended.flatten

/-- That a vehicle is the first of a link that a full downstream link turns away. -/
def TurnsFirst (passage : Passage α) (link : LinkId) (vehicle : Vehicle α) : Prop :=
  ∃ service ∈ passage.services, service.link = link ∧ service.refused.head? = some vehicle

end Passage

theorem World.exists_attends {network : Network α} {context : RouteContext}
    {traffic : Traffic α} {decisions : List NodeDecision}
    (decided : World.decideAll network context traffic = .ok decisions) :
    ∃ attended, List.Forall₂ (traffic.roads.Attends network traffic.population context)
        network.nodeKeys attended ∧
      decisions = List.zipWith .ofServices network.nodeKeys attended := by
  have each := World.decideAll_eq_ok.mp decided
  clear decided
  generalize network.nodeKeys = nodes at each
  induction each with
  | nil => exact ⟨[], .nil, rfl⟩
  | cons decided _ ih =>
      obtain ⟨services, attends, rfl⟩ := Roads.decide_eq_ok.mp decided
      obtain ⟨attended, others, rfl⟩ := ih
      exact ⟨services :: attended, .cons attends others, rfl⟩

/-- Every interval is a passage. -/
theorem World.exists_passage {world : World α} {flowPermanent : Bool} {interval : Interval α}
    (simulated : world.interval flowPermanent = .ok interval) :
    ∃ passage : Passage α, passage.world = world ∧ passage.flowPermanent = flowPermanent ∧
      passage.interval = interval := by
  obtain ⟨course, follows, rfl⟩ := World.interval_eq_ok.mp simulated
  obtain ⟨attended, attends, decided⟩ := World.exists_attends follows.decided
  exact ⟨⟨world, flowPermanent, course, follows, attended, attends, decided⟩, rfl, rfl, rfl⟩

/-- The passages of a run. -/
inductive World.Passes (start : World α) : List (Passage α) → World α → Prop where
  | start : Passes start [] start
  | step {passages : List (Passage α)} {passage : Passage α}
      (before : Passes start passages passage.world) :
      Passes start (passages ++ [passage]) passage.interval.next

namespace World.Passes

variable {start world : World α} {passages : List (Passage α)} {history : List (Interval α)}

theorem run (passes : start.Passes passages world) :
    World.Run start (passages.map (·.interval)) world := by
  induction passes with
  | start => exact .start
  | @step passages passage _ ih =>
      rw [List.map_append]
      exact .step ih (World.interval_eq_ok.mpr ⟨_, passage.follows, rfl⟩)

theorem of_run (run : World.Run start history world) :
    ∃ passages, start.Passes passages world ∧ passages.map (·.interval) = history := by
  induction run with
  | start => exact ⟨[], .start, rfl⟩
  | step _ simulated ih =>
      obtain ⟨passages, before, rfl⟩ := ih
      obtain ⟨passage, rfl, -, rfl⟩ := World.exists_passage simulated
      exact ⟨passages ++ [passage], .step before, List.map_append⟩

end World.Passes

/-- What the passages of a run rest on. -/
structure World.Regular (world : World α) (first : Network α) (tickSecs : Nat) : Prop where
  placed : world.Placed
  charted : world.Charted first tickSecs
  inLine : world.roads.InLine

namespace World.Regular

variable {world world' : World α} {first : Network α} {tickSecs : Nat}

theorem of_build {σ : Type} {setup : SimSetup α σ} {start : Sim α σ}
    (built : setup.build = .ok start) (fresh : setup.population.Fresh) :
    start.world.Regular setup.network setup.config.tickSecs := by
  have opened := (SimSetup.build_eq_ok built).opened
  exact ⟨.of_build built fresh, .of_build built, Roads.inLine_of_ofNetwork opened⟩

theorem interval {flowPermanent : Bool} {interval : Interval α}
    (regular : world.Regular first tickSecs)
    (simulated : world.interval flowPermanent = .ok interval) :
    interval.next.Regular first tickSecs := by
  refine ⟨regular.placed.interval simulated, regular.charted.interval simulated, ?_⟩
  obtain ⟨course, follows, rfl⟩ := World.interval_eq_ok.mp simulated
  have refilled := regular.inLine.of_lineups (World.refilled_lineups follows.changed)
  exact follows.steps.preserves (fun traffic => traffic.roads.InLine)
    Traffic.Step.inLine refilled

theorem run {history : List (Interval α)} (regular : world.Regular first tickSecs)
    (run : World.Run world history world') : world'.Regular first tickSecs :=
  run.preserves (World.Regular · first tickSecs) interval regular

end World.Regular

namespace Passage

variable {passage : Passage α} {first : Network α} {tickSecs : Nat}
  {service : Service α} {link : LinkId}

theorem rules_midway (passage : Passage α) :
    passage.course.midway.roads.rules = passage.world.roads.rules :=
  (Enduring.rules passage.world.roads).steps
    ((Enduring.rules passage.world.roads).refilled rfl passage.follows.changed)
    passage.follows.departed

theorem clock (passage : Passage α) :
    passage.course.changed.clock.now = passage.tick :=
  congrArg Clock.now passage.follows.revises.clock

theorem context_now (passage : Passage α) :
    (passage.course.changed.context passage.flowPermanent).now = passage.tick := passage.clock

theorem clock_next (passage : Passage α) :
    passage.interval.next.clock.now = passage.tick + 1 := congrArg (· + 1) passage.clock

theorem events_eq (passage : Passage α) :
    passage.interval.events.toList = passage.course.happenings.flatMap (·.events passage.tick) := by
  rw [← passage.clock]
  exact passage.follows.events

theorem filter_departures (passage : Passage α) (link : LinkId) :
    passage.course.departures.filter (·.served? = some link) = [] := by
  refine List.filter_eq_nil_iff.mpr fun happening due => ?_
  have due := Happening.departure?_ne_none passage.follows.named happening due
  cases happening <;> simp [Happening.served?, Happening.leaves?, Happening.marks?,
    Happening.departure?] at due ⊢

section Regular

variable (regular : passage.world.Regular first tickSecs)

include regular

theorem placed :
    passage.course.changed.refilled.Placed passage.world.departures.entries :=
  regular.placed.traffic.of_perm (.refl _) (World.refilled_like passage.follows.changed)
    passage.follows.revises.population

theorem placed_midway : ∃ pending, passage.course.midway.Placed pending :=
  ⟨_, (placed regular).steps passage.follows.departed⟩

theorem mirrors_midway :
    passage.course.midway.roads.Mirrors tickSecs passage.course.changed.network :=
  passage.follows.departed.preserves
    (fun traffic => traffic.roads.Mirrors tickSecs passage.course.changed.network)
    Traffic.Step.mirrors (regular.charted.changed passage.follows.changed).mirrors.refill

theorem sound (sound : first.Sound) : passage.course.changed.network.Sound :=
  (regular.charted.changed passage.follows.changed).alike.sound sound

theorem inLine_midway : passage.course.midway.roads.InLine :=
  passage.follows.departed.preserves (fun traffic => traffic.roads.InLine)
    Traffic.Step.inLine
    (regular.inLine.of_lineups (World.refilled_lineups passage.follows.changed))

theorem nodup_links (sound : first.Sound) : (passage.services.map (·.link)).Nodup := by
  rw [services, Roads.map_link_of_attends passage.attends]
  exact Roads.nodup_servedLinks (passage.sound regular sound) (mirrors_midway regular)

omit regular in
theorem serves (passage : Passage α) (member : service ∈ passage.services) :
    ∃ junction queue before after, junction.context = passage.course.changed.context
        passage.flowPermanent ∧
      passage.course.midway.roads.queue? service.link = some queue ∧
      passage.course.midway.roads.Serves junction queue queue.accumulator false before
        queue.vehicles service.plan service.refused after := by
  obtain ⟨node, queue, before, after, present, serves⟩ :=
    Roads.serves_of_attends passage.attends member
  exact ⟨_, queue, before, after, rfl, present, serves⟩

theorem isLocal (member : service ∈ passage.services) : service.Local := by
  obtain ⟨pending, placed⟩ := placed_midway regular
  obtain ⟨junction, queue, before, after, -, present, serves⟩ := passage.serves member
  exact serves.isLocal placed.labelled present

theorem filter_orders (sound : first.Sound) (member : service ∈ passage.services) :
    passage.course.orders.filter (·.served? = some service.link) = service.orders := by
  rw [Course.orders, passage.decided]
  exact NodeDecision.filter_orders_all_of_mem (fun _ listed => isLocal regular listed)
    passage.attends.length_eq (nodup_links regular sound) member

theorem filter_happenings (sound : first.Sound) (member : service ∈ passage.services) :
    passage.course.happenings.filter (·.served? = some service.link) = service.orders := by
  rw [Course.happenings, List.filter_append, passage.filter_departures, List.nil_append,
    filter_orders regular sound member]

theorem exists_service_of_queue (sound : first.Sound) {queue : LinkQueue α}
    (present : passage.course.midway.roads.queue? link = some queue) :
    ∃ service ∈ passage.services, service.link = link := by
  have served := Roads.mem_servedLinks (passage.sound regular sound) (mirrors_midway regular)
    (Option.isSome_of_eq_some present)
  rw [Roads.servedLinks, ← Roads.map_link_of_attends passage.attends] at served
  exact List.mem_map.mp served

theorem exists_service {happening : Happening} (ordered : happening ∈ passage.course.orders)
    (served : happening.served? = some link) :
    ∃ service ∈ passage.services, service.link = link := by
  by_contra nobody
  have absent : link ∉ passage.services.map (·.link) := by
    intro listed
    obtain ⟨service, member, own⟩ := List.mem_map.mp listed
    exact nobody ⟨service, member, own⟩
  have unserved : passage.course.orders.filter (·.served? = some link) = [] := by
    rw [Course.orders, passage.decided]
    exact NodeDecision.filter_orders_all_of_notMem (fun _ listed => isLocal regular listed) absent
  have listed : happening ∈ passage.course.orders.filter (·.served? = some link) :=
    List.mem_filter.mpr ⟨ordered, decide_eq_true served⟩
  rw [unserved] at listed
  cases listed

end Regular

end Passage

end MixedTraffic

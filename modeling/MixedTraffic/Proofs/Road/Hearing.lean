import MixedTraffic.Proofs.Road.Service

namespace MixedTraffic

/-! The decision of a node together with what it was taken on: which drivers asked for which
links, in the order in which they were heard, whether they were let through, and the rooms that
were left in the end. -/

/-- The move that a request leads to. -/
def Request.move? {α : Type} (request : Request α) : Option Move :=
  if request.granted then
    some (.transfer request.source request.vehicle.agent request.target)
  else none

namespace Roads

variable {α : Type} {junction : Junction α} {queue : LinkQueue α} {vehicle : Vehicle α}
  {vehicles rest refused : List (Vehicle α)} {plan : LinkPlan} {requests : List (Request α)}
  {next : LinkId}

/-- How the requests for a link's vehicles stand to the plan: those let through are the ones who
change over, and the others make up who is turned away. -/
structure Reports (junction : Junction α) (queue : LinkQueue α) (vehicles : List (Vehicle α))
    (plan : LinkPlan) (refused : List (Vehicle α)) (requests : List (Request α)) : Prop where
  granted : requests.filterMap Request.move? = plan.moves.filter (·.target?.isSome)
  turnedAway : (requests.filter (!·.granted)).map (·.vehicle) = refused
  rejections : plan.rejections = refused.length
  sources : ∀ move ∈ plan.moves, move.source = queue.link
  inOrder : (requests.map (·.vehicle)).Sublist vehicles
  asked : ∀ request ∈ requests, request.source = queue.link ∧
    junction.ask queue.link request.vehicle = .ok (some request.target)

namespace Reports

theorem nobody (vehicles : List (Vehicle α)) : Reports junction queue vehicles {} [] [] where
  granted := rfl
  turnedAway := rfl
  rejections := rfl
  sources := List.forall_mem_nil _
  inOrder := vehicles.nil_sublist
  asked := List.forall_mem_nil _

variable (reports : Reports junction queue rest plan refused requests)
include reports

theorem pass (vehicle : Vehicle α) :
    Reports junction queue (vehicle :: rest) plan refused requests :=
  { reports with inOrder := reports.inOrder.cons vehicle }

theorem arrive (vehicle : Vehicle α) :
    Reports junction queue (vehicle :: rest) (plan.move (.arrive queue.link vehicle.agent))
      refused requests :=
  { reports.pass vehicle with
    granted := reports.granted
    sources := List.forall_mem_cons.mpr ⟨rfl, reports.sources⟩ }

theorem grant (asked : junction.ask queue.link vehicle = .ok (some next)) :
    Reports junction queue (vehicle :: rest)
      (plan.move (.transfer queue.link vehicle.agent next)) refused
      (⟨queue.link, vehicle, next, true⟩ :: requests) where
  granted := congrArg (Move.transfer queue.link vehicle.agent next :: ·) reports.granted
  turnedAway := reports.turnedAway
  rejections := reports.rejections
  sources := List.forall_mem_cons.mpr ⟨rfl, reports.sources⟩
  inOrder := reports.inOrder.cons_cons vehicle
  asked := List.forall_mem_cons.mpr ⟨⟨rfl, asked⟩, reports.asked⟩

theorem refuse (asked : junction.ask queue.link vehicle = .ok (some next))
    (blocked : Option AgentId) :
    Reports junction queue (vehicle :: rest) { plan.reject with blocked } (vehicle :: refused)
      (⟨queue.link, vehicle, next, false⟩ :: requests) where
  granted := reports.granted
  turnedAway := congrArg (vehicle :: ·) reports.turnedAway
  rejections := congrArg (· + 1) reports.rejections
  sources := reports.sources
  inOrder := reports.inOrder.cons_cons vehicle
  asked := List.forall_mem_cons.mpr ⟨⟨rfl, asked⟩, reports.asked⟩

end Reports

/-- That two junctions see the same of a vehicle: its agent, and what the driver asks for. -/
structure Junction.Sees (junction junction' : Junction α) (vehicle : Vehicle α) : Prop where
  network : junction'.network = junction.network
  node : junction'.node = junction.node
  now : junction'.context.now = junction.context.now
  asks : ∀ source, junction'.ask source vehicle = junction.ask source vehicle

theorem Junction.Sees.refuse {junction' : Junction α} (sees : junction.Sees junction' vehicle)
    (next : LinkId) :
    junction'.refuse vehicle next = junction.refuse vehicle next := by
  rw [Junction.refuse, sees.network, sees.node, Junction.refuse]

variable [Quantity α] {roads : Roads α} {accumulator : α} {held : Bool} {rooms rooms' : Rooms α}

/-- The answers to some requests, each according to the room that those before it have left. -/
inductive Answers (roads : Roads α) : Rooms α → List (Request α) → Rooms α → Prop where
  | nil {rooms : Rooms α} : Answers roads rooms [] rooms
  | grant {rooms rooms' : Rooms α} {source target : LinkId} {vehicle : Vehicle α}
      {requests : List (Request α)} {room room' : Room α} {seeping : Bool}
      (free : rooms.lookup target = some room)
      (taken : room.take? vehicle.pcu (roads.seeps vehicle.mode) = some (seeping, room'))
      (later : Answers roads (rooms.set target room') requests rooms') :
      Answers roads rooms (⟨source, vehicle, target, true⟩ :: requests) rooms'
  | refuse {rooms rooms' : Rooms α} {source target : LinkId} {vehicle : Vehicle α}
      {requests : List (Request α)} {room : Room α} (free : rooms.lookup target = some room)
      (full : room.take? vehicle.pcu (roads.seeps vehicle.mode) = none)
      (later : Answers roads rooms requests rooms') :
      Answers roads rooms (⟨source, vehicle, target, false⟩ :: requests) rooms'

theorem Answers.append {middle : Rooms α} {requests' : List (Request α)}
    (first : roads.Answers rooms requests middle) (later : roads.Answers middle requests' rooms') :
    roads.Answers rooms (requests ++ requests') rooms' := by
  induction first with
  | nil => exact later
  | grant free taken _ ih => exact .grant free taken (ih later)
  | refuse free full _ ih => exact .refuse free full (ih later)

theorem Serves.exists_heard (serves : roads.Serves junction queue accumulator held rooms vehicles
    plan refused rooms') :
    ∃ requests, roads.hearVehicles junction queue accumulator held rooms vehicles =
        .ok (plan, requests, rooms') ∧
      Reports junction queue vehicles plan refused requests ∧
      roads.Answers rooms requests rooms' := by
  -- In each case the requests are those of the later vehicles, and one more for a driver who is
  -- not to arrive.
  induction serves with
  | done => exact ⟨[], rfl, .nobody [], .nil⟩
  | early early =>
      refine ⟨[], ?_, .nobody _, .nil⟩
      unfold hearVehicles
      rw [if_pos early]
      rfl
  | behind ready stays _ ih =>
      obtain ⟨requests, heard, reports, answers⟩ := ih
      refine ⟨requests, ?_, reports.pass _, answers⟩
      unfold hearVehicles
      rw [if_neg (Nat.not_lt.mpr ready), if_pos (by simp [stays]), heard]
  | @dry _ held _ vehicle _ ready passes dry =>
      refine ⟨[], ?_, .nobody _, .nil⟩
      unfold hearVehicles
      rw [if_neg (Nat.not_lt.mpr ready), if_neg (by simpa using passes), if_pos dry]
      rfl
  | arrive calls asked _ ih =>
      obtain ⟨requests, heard, reports, answers⟩ := ih
      refine ⟨requests, ?_, reports.arrive _, answers⟩
      unfold hearVehicles
      rw [if_neg (Nat.not_lt.mpr calls.ready), if_neg (by simpa using calls.passes),
        if_neg calls.carried]
      simp only [asked, heard, bind, Except.bind]
      rfl
  | transfer calls asked free taken _ ih =>
      obtain ⟨requests, heard, reports, answers⟩ := ih
      refine ⟨_ :: requests, ?_, reports.grant asked, .grant free taken answers⟩
      unfold hearVehicles
      rw [if_neg (Nat.not_lt.mpr calls.ready), if_neg (by simpa using calls.passes),
        if_neg calls.carried]
      simp only [asked, free, taken, heard, bind, Except.bind, Option.elim_some]
      rfl
  | @stuck _ _ vehicle rest _ _ calls turned overdue =>
      have refused : Reports junction queue (vehicle :: rest) _ [vehicle] [_] :=
        (Reports.nobody rest).refuse turned.asked none
      refine ⟨[_], ?_, { refused with
        granted := rfl
        sources := List.forall_mem_singleton.mpr rfl }, .refuse turned.free turned.full .nil⟩
      unfold hearVehicles
      rw [if_neg (Nat.not_lt.mpr calls.ready), if_neg (by simp), if_neg calls.carried]
      simp only [turned.asked, turned.free, turned.full, overdue, bind, Except.bind,
        Option.elim_some, Bool.not_false, Bool.and_self, if_true]
      rfl
  | last calls turned patient nobody =>
      refine ⟨[_], ?_, (Reports.nobody _).refuse turned.asked _,
        .refuse turned.free turned.full .nil⟩
      unfold hearVehicles
      rw [if_neg (Nat.not_lt.mpr calls.ready), if_neg (by simp), if_neg calls.carried]
      simp only [turned.asked, turned.free, turned.full, patient, nobody, bind, Except.bind,
        Option.elim_some, Bool.and_false, Bool.false_eq_true, if_false]
      rfl
  | first calls turned patient somebody _ ih =>
      obtain ⟨requests, heard, reports, answers⟩ := ih
      refine ⟨_ :: requests, ?_, reports.refuse turned.asked _,
        .refuse turned.free turned.full answers⟩
      unfold hearVehicles
      rw [if_neg (Nat.not_lt.mpr calls.ready), if_neg (by simp), if_neg calls.carried]
      simp only [turned.asked, turned.free, turned.full, patient, somebody, heard, bind,
        Except.bind, Option.elim_some, Bool.and_false, Bool.false_eq_true, if_false, if_true]
      rfl
  | again calls turned _ ih =>
      obtain ⟨requests, heard, reports, answers⟩ := ih
      refine ⟨_ :: requests, ?_, reports.refuse turned.asked _,
        .refuse turned.free turned.full answers⟩
      unfold hearVehicles
      rw [if_neg (Nat.not_lt.mpr calls.ready), if_neg (by simpa using calls.passes),
        if_neg calls.carried]
      simp only [turned.asked, turned.free, turned.full, anySeeps_of_seeps (calls.passes rfl),
        heard, bind, Except.bind, Option.elim_some, Bool.not_true, Bool.false_and,
        Bool.false_eq_true, if_false, if_true]
      rfl

theorem serves_of_hearVehicles (heard : roads.hearVehicles junction queue accumulator held rooms
    vehicles = .ok (plan, requests, rooms')) :
    ∃ refused, roads.Serves junction queue accumulator held rooms vehicles plan refused rooms' ∧
      Reports junction queue vehicles plan refused requests ∧
      roads.Answers rooms requests rooms' := by
  obtain ⟨refused, serves⟩ := exists_serves heard
  obtain ⟨requests, heard', reports, answers⟩ := serves.exists_heard
  cases heard.symm.trans heard'
  exact ⟨refused, serves, reports, answers⟩

/-- That a hearing is that of a queue. -/
structure Hears (roads : Roads α) (junction : Junction α) (hearing : Hearing α)
    (queue : LinkQueue α) : Prop where
  present : roads.queue? hearing.link = some queue
  served : ∃ refused before after,
    roads.Serves junction queue queue.accumulator false before queue.vehicles hearing.plan refused
      after ∧
    Reports junction queue queue.vehicles hearing.plan refused hearing.requests

variable {links : List LinkId} {hearings : List (Hearing α)}

theorem hears_of_hearLinks
    (heard : roads.hearLinks junction rooms links = .ok (hearings, rooms')) :
    hearings.map (·.link) = links ∧
      (∀ hearing ∈ hearings, ∃ queue, roads.Hears junction hearing queue) ∧
      roads.Answers rooms (hearings.flatMap (·.requests)) rooms' := by
  induction links generalizing rooms hearings with
  | nil =>
      cases heard
      exact ⟨rfl, List.forall_mem_nil _, .nil⟩
  | cons link rest ih =>
      simp only [hearLinks, Roads.queue, Attempt.bind_eq_ok, Attempt.elim_eq_ok, Prod.exists,
        Attempt.pure_eq_ok, Prod.mk.injEq] at heard
      obtain ⟨queue, present, plan, requests, middle, first, others, last, later, rfl, rfl⟩ := heard
      obtain ⟨refused, serves, reports, answers⟩ := serves_of_hearVehicles first
      obtain ⟨names, each, after⟩ := ih later
      refine ⟨congrArg (link :: ·) names, List.forall_mem_cons.mpr ⟨?_, each⟩,
        answers.append after⟩
      exact ⟨queue, present, refused, rooms, middle, serves, reports⟩

section Congruence

variable {roads' : Roads α} {junction' : Junction α}

theorem hearVehicles_congr (seepFlags : roads'.seepFlags = roads.seepFlags)
    (stuckTicks : roads'.stuckTicks = roads.stuckTicks)
    (sees : ∀ vehicle ∈ vehicles, junction.Sees junction' vehicle) (queue : LinkQueue α)
    (accumulator : α) (held : Bool) (rooms : Rooms α) :
    roads'.hearVehicles junction' queue accumulator held rooms vehicles =
      roads.hearVehicles junction queue accumulator held rooms vehicles := by
  induction vehicles generalizing accumulator held rooms with
  | nil => rfl
  | cons vehicle rest ih =>
      obtain ⟨first, others⟩ := List.forall_mem_cons.mp sees
      have maySeep : roads'.seeps vehicle.mode = roads.seeps vehicle.mode := by
        rw [seeps, seeps, seepFlags]
      have anySeeps : roads'.anySeeps = roads.anySeeps := by
        rw [Roads.anySeeps, Roads.anySeeps, seepFlags]
      have isStuck : roads'.isStuck = roads.isStuck := by
        unfold Roads.isStuck
        rw [stuckTicks]
      simp only [hearVehicles, first.now, first.asks, first.refuse, ih others, maySeep, anySeeps,
        isStuck]

theorem hearLinks_congr (seepFlags : roads'.seepFlags = roads.seepFlags)
    (stuckTicks : roads'.stuckTicks = roads.stuckTicks)
    (queues : ∀ link ∈ links, roads'.queue? link = roads.queue? link)
    (sees : ∀ link ∈ links, ∀ queue, roads.queue? link = some queue →
      ∀ vehicle ∈ queue.vehicles, junction.Sees junction' vehicle) (rooms : Rooms α) :
    roads'.hearLinks junction' rooms links = roads.hearLinks junction rooms links := by
  induction links generalizing rooms with
  | nil => rfl
  | cons link rest ih =>
      obtain ⟨queue, others⟩ := List.forall_mem_cons.mp queues
      obtain ⟨seen, behind⟩ := List.forall_mem_cons.mp sees
      simp only [hearLinks, Roads.queue, queue, ih others behind]
      cases present : roads.queue? link with
      | none => rfl
      | some queue =>
          have first := hearVehicles_congr seepFlags stuckTicks (seen queue present)
          simp only [Option.elim_some, bind, Except.bind, first]

end Congruence

section Node

variable {network : Network α} {population : Population} {context : RouteContext}
  {node : NodeId} {left : Rooms α} {decision : NodeDecision}

theorem hear_eq_ok :
    roads.hear network population context node = .ok (hearings, left) ↔
      ∃ outgoing inbound rooms, network.outgoing? node = some outgoing ∧
        roads.inbound? node = some inbound ∧ roads.roomsOf outgoing = .ok rooms ∧
        roads.hearLinks ⟨node, network, population, context⟩ rooms inbound =
          .ok (hearings, left) := by
  simp only [hear, Attempt.bind_eq_ok, Attempt.elim_eq_ok]
  constructor
  · rintro ⟨outgoing, leaving, inbound, coming, rooms, opened, heard⟩
    exact ⟨outgoing, inbound, rooms, leaving, coming, opened, heard⟩
  · rintro ⟨outgoing, inbound, rooms, leaving, coming, opened, heard⟩
    exact ⟨outgoing, leaving, inbound, coming, rooms, opened, heard⟩

theorem decide_eq_ok_iff_hear :
    roads.decide network population context node = .ok decision ↔
      ∃ hearings left, roads.hear network population context node = .ok (hearings, left) ∧
        decision = .ofHearings node hearings := by
  simp only [decide, Attempt.bind_eq_ok, Attempt.pure_eq_ok, Prod.exists]
  constructor
  · rintro ⟨hearings, left, heard, rfl⟩
    exact ⟨hearings, left, heard, rfl⟩
  · rintro ⟨hearings, left, heard, rfl⟩
    exact ⟨hearings, left, heard, rfl⟩

end Node

end Roads

/-- What is planned for the vehicles of one link, and which of them are turned away by a full
downstream link. -/
structure Service (α : Type) where
  link : LinkId
  plan : LinkPlan
  refused : List (Vehicle α)

namespace Service

variable {α : Type}

def marks (service : Service α) : List (LinkId × AgentId) :=
  (service.plan.blocked.map (service.link, ·)).toList

theorem link_of_mem_marks {service : Service α} {entry : LinkId × AgentId}
    (marked : entry ∈ service.marks) : entry.1 = service.link := by
  obtain ⟨agent, -, rfl⟩ := Option.map_eq_some_iff.mp (Option.mem_toList.mp marked)
  rfl

end Service

/-- The decision that the services of a node's inbound links make up. -/
def NodeDecision.ofServices {α : Type} (node : NodeId) (services : List (Service α)) :
    NodeDecision where
  node := node
  moves := services.flatMap (·.plan.moves)
  rejections := (services.map (·.plan.rejections)).foldr (· + ·) 0
  blocked := services.flatMap (·.marks)

/-- One more link adds as much to the hearings as to the services. -/
theorem NodeDecision.ofHearings_cons_eq {α : Type} {node : NodeId} {hearings : List (Hearing α)}
    {services : List (Service α)} (same : ofHearings node hearings = ofServices node services)
    {link : LinkId} {plan : LinkPlan} {requests : List (Request α)} {refused : List (Vehicle α)} :
    ofHearings node (⟨link, plan, requests⟩ :: hearings) =
      ofServices node (⟨link, plan, refused⟩ :: services) := by
  simp only [ofHearings, ofServices, mk.injEq, true_and] at same ⊢
  obtain ⟨moves, rejections, blocked⟩ := same
  rw [List.flatMap_cons, List.flatMap_cons, moves, List.map_cons, List.map_cons,
    List.foldr_cons, List.foldr_cons, rejections, List.flatMap_cons, List.flatMap_cons, blocked]
  exact ⟨rfl, rfl, rfl⟩

namespace Roads

variable {α : Type} [Quantity α] {roads : Roads α} {junction : Junction α}
  {rooms rooms' : Rooms α} {links : List LinkId} {services : List (Service α)}
  {decision : NodeDecision}

/-- The services of some links, one after the other. -/
inductive ServesAll (roads : Roads α) (junction : Junction α) :
    Rooms α → List LinkId → List (Service α) → Rooms α → Prop where
  | nil {rooms : Rooms α} : ServesAll roads junction rooms [] [] rooms
  | cons {rooms middle rooms' : Rooms α} {link : LinkId} {rest : List LinkId}
      {queue : LinkQueue α} {plan : LinkPlan} {refused : List (Vehicle α)}
      {others : List (Service α)} (present : roads.queue? link = some queue)
      (serves : roads.Serves junction queue queue.accumulator false rooms queue.vehicles plan
        refused middle)
      (later : ServesAll roads junction middle rest others rooms') :
      ServesAll roads junction rooms (link :: rest) (⟨link, plan, refused⟩ :: others) rooms'

/-- Hearing the inbound links of a node comes down to serving them. -/
theorem hearLinks_eq_ok :
    (∃ hearings, roads.hearLinks junction rooms links = .ok (hearings, rooms') ∧
        decision = .ofHearings junction.node hearings) ↔
      ∃ services, roads.ServesAll junction rooms links services rooms' ∧
        decision = .ofServices junction.node services := by
  induction links generalizing rooms decision with
  | nil =>
      constructor
      · rintro ⟨hearings, heard, rfl⟩
        cases heard
        exact ⟨[], .nil, rfl⟩
      · rintro ⟨services, serves, rfl⟩
        cases serves
        exact ⟨[], rfl, rfl⟩
  | cons link rest ih =>
      simp only [hearLinks, Roads.queue, Attempt.bind_eq_ok, Attempt.elim_eq_ok, Prod.exists,
        Attempt.pure_eq_ok, Prod.mk.injEq]
      constructor
      · rintro ⟨_, ⟨queue, present, plan, requests, middle, first, others, _, later, rfl, rfl⟩, rfl⟩
        obtain ⟨refused, serves⟩ := exists_serves first
        obtain ⟨services, more, same⟩ := ih.mp ⟨others, later, rfl⟩
        exact ⟨_, .cons present serves more, NodeDecision.ofHearings_cons_eq same⟩
      · rintro ⟨_, serves, rfl⟩
        cases serves with
        | @cons _ middle _ _ _ queue plan refused services present serves later =>
            obtain ⟨requests, first, -, -⟩ := serves.exists_heard
            obtain ⟨others, more, same⟩ := ih.mpr ⟨services, later, rfl⟩
            exact ⟨_, ⟨queue, present, plan, requests, middle, first, others, _, more, rfl, rfl⟩,
              (NodeDecision.ofHearings_cons_eq same.symm).symm⟩

namespace ServesAll

theorem map_link (serves : roads.ServesAll junction rooms links services rooms') :
    services.map (·.link) = links := by
  induction serves with
  | nil => rfl
  | cons _ _ _ ih => rw [List.map_cons, ih]

theorem serves_of_mem (serves : roads.ServesAll junction rooms links services rooms')
    {service : Service α} (member : service ∈ services) :
    ∃ queue before after, roads.queue? service.link = some queue ∧
      roads.Serves junction queue queue.accumulator false before queue.vehicles service.plan
        service.refused after := by
  induction serves with
  | nil => cases member
  | cons present serves _ ih =>
      cases member with
      | head => exact ⟨_, _, _, present, serves⟩
      | tail _ later => exact ih later

end ServesAll

/-- That a node serves its inbound links so. -/
structure Attends (roads : Roads α) (network : Network α) (population : Population)
    (context : RouteContext) (node : NodeId) (services : List (Service α)) : Prop where
  served : ∃ outgoing inbound rooms rooms', network.outgoing? node = some outgoing ∧
    roads.inbound? node = some inbound ∧ roads.roomsOf outgoing = .ok rooms ∧
    roads.ServesAll ⟨node, network, population, context⟩ rooms inbound services rooms'

theorem decide_eq_ok {network : Network α} {population : Population} {context : RouteContext}
    {node : NodeId} :
    roads.decide network population context node = .ok decision ↔
      ∃ services, roads.Attends network population context node services ∧
        decision = .ofServices node services := by
  rw [decide_eq_ok_iff_hear]
  constructor
  · rintro ⟨hearings, left, heard, rfl⟩
    obtain ⟨outgoing, inbound, rooms, leaving, coming, opened, served⟩ := hear_eq_ok.mp heard
    obtain ⟨services, serves, same⟩ := hearLinks_eq_ok.mp ⟨hearings, served, rfl⟩
    exact ⟨services, ⟨outgoing, inbound, rooms, left, leaving, coming, opened, serves⟩, same⟩
  · rintro ⟨services, ⟨outgoing, inbound, rooms, left, leaving, coming, opened, serves⟩, rfl⟩
    obtain ⟨hearings, served, same⟩ := hearLinks_eq_ok.mpr ⟨services, serves, rfl⟩
    exact ⟨hearings, left,
      hear_eq_ok.mpr ⟨outgoing, inbound, rooms, leaving, coming, opened, served⟩, same⟩

end Roads

end MixedTraffic

import MixedTraffic.Proofs.Road.Hearing
import MixedTraffic.Proofs.Road.Storage
import MixedTraffic.Proofs.Road.Terms
import MixedTraffic.Proofs.Run.History

namespace MixedTraffic

/-! Who competes for the room of a node's outbound links. Rooms only shrink while the node serves
its inbound links, so whoever has been turned away leaves no room for the next one of that size. -/

/-- The laws of taking amounts away that hold of rounded amounts as well. An amount that differs
from itself is undefined. -/
structure Quantity.Rationed (α : Type) [Quantity α] : Prop where
  trans : ∀ {x y z : α}, x ≤ y → y ≤ z → x ≤ z
  shrinks : ∀ {x y z : α}, isPositive y = true → z ≤ x - y + slack → z ≤ x + slack
  defined : ∀ {x y : α}, (x == x) = true → isPositive y = true → (x - y == x - y) = true
  fits : ∀ {x y : α}, (x == x) = true → isPositive y = true → (¬x + slack < y ↔ y ≤ x + slack)

theorem Quantity.rationed_rat : Quantity.Rationed Rat where
  trans := le_trans
  shrinks positive fits := by
    have taken := pos_of_isPositive positive
    linarith
  defined _ _ := beq_self_eq_true _
  fits _ _ := not_lt

namespace Room

variable {α : Type} [Quantity α] {room room' : Room α} {pcu pcu' taken : α}
  {maySeep maySeep' seeping seeps : Bool}

variable (laws : Quantity.Rationed α) (full : room.take? pcu maySeep = none)
include laws full

/-- No larger vehicle finds room where one was turned away, unless it may seep and that one may
not. -/
theorem full_of_larger (larger : pcu ≤ pcu') (seeps : maySeep' = true → maySeep = true) :
    room.take? pcu' maySeep' = none := by
  obtain ⟨regular, seepage⟩ := take?_eq_none.mp full
  apply take?_eq_none.mpr
  constructor
  · intro fits
    exact regular (laws.trans larger fits)
  · intro may fits
    exact seepage (seeps may) (laws.trans larger fits)

/-- Nobody finds room later who found none before others took theirs. -/
theorem full_of_taken (positive : Quantity.isPositive taken = true)
    (left : room.take? taken seeps = some (seeping, room')) :
    room'.take? pcu maySeep = none := by
  obtain ⟨regular, seepage⟩ := take?_eq_none.mp full
  apply take?_eq_none.mpr
  unfold take? at left
  split at left
  next =>
    cases left
    exact ⟨mt (laws.shrinks positive) regular, seepage⟩
  next =>
    split at left
    next =>
      cases left
      exact ⟨regular, fun may => mt (laws.shrinks positive) (seepage may)⟩
    next => cases left

end Room

namespace Roads

variable {α : Type} {roads roads' : Roads α}

theorem Junction.Sees.of_get? {node : NodeId} {network : Network α} {population : Population}
    {context : RouteContext} {vehicle : Vehicle α}
    (same : population'.get? vehicle.agent = population.get? vehicle.agent) :
    Junction.Sees ⟨node, network, population, context⟩ ⟨node, network, population', context⟩
      vehicle where
  network := rfl
  node := rfl
  now := rfl
  asks source := by simp only [Junction.ask, Population.find, same]

theorem forall_queue?_iff {holds : LinkId → LinkQueue α → Prop} :
    (∀ link queue, roads.queue? link = some queue → holds link queue) ↔
      ∀ position : Fin roads.queues.size, ∀ queue ∈ roads.queue? ⟨position⟩,
        holds ⟨position⟩ queue := by
  constructor
  · intro each position
    exact each ⟨position⟩
  · intro each link queue present
    obtain ⟨bound, -⟩ := Array.getElem?_eq_some_iff.mp present
    exact each ⟨link.index, bound⟩ queue present

variable [Quantity α] {junction : Junction α} {rooms rooms' : Rooms α} {requests : List (Request α)}

/-- That a request is turned away once another has been, for the same link, by a vehicle that is
not larger, unless its own may seep and that one may not. -/
def Yields (roads : Roads α) (first later : Request α) : Prop :=
  first.granted = false → later.target = first.target →
    first.vehicle.pcu ≤ later.vehicle.pcu →
      (roads.seeps later.vehicle.mode = true → roads.seeps first.vehicle.mode = true) →
        later.granted = false

namespace Answers

/-- Where a vehicle would be turned away, those after it are as well, and in the end there is
still no room for it. -/
theorem full (answers : roads.Answers rooms requests rooms') (laws : Quantity.Rationed α)
    (sized : ∀ request ∈ requests, Quantity.isPositive request.vehicle.pcu = true)
    {target : LinkId} {room : Room α} {pcu : α} {maySeep : Bool}
    (free : rooms.lookup target = some room) (full : room.take? pcu maySeep = none) :
    (∀ request ∈ requests, request.target = target → pcu ≤ request.vehicle.pcu →
        (roads.seeps request.vehicle.mode = true → maySeep = true) →
          request.granted = false) ∧
      ∃ room', rooms'.lookup target = some room' ∧ room'.take? pcu maySeep = none := by
  -- The room of the target is followed through the answers. Only who gets into the target
  -- changes it.
  induction answers generalizing room with
  | nil => exact ⟨List.forall_mem_nil _, room, free, full⟩
  | @grant rooms _ source other vehicle _ before after _ there taken _ ih =>
      obtain ⟨positive, others⟩ := List.forall_mem_cons.mp sized
      by_cases same : other = target
      · subst same
        cases free.symm.trans there
        obtain ⟨refused, left⟩ := ih others (Rooms.lookup_set_self there after)
          (Room.full_of_taken laws full positive taken)
        refine ⟨List.forall_mem_cons.mpr ⟨fun _ larger seeps => ?_, refused⟩, left⟩
        have closed := Room.full_of_larger laws full larger seeps
        cases closed.symm.trans taken
      · have kept : (rooms.set other after).lookup target = some room :=
          (Rooms.lookup_set_of_ne (Ne.symm same) after).trans free
        obtain ⟨refused, left⟩ := ih others kept full
        exact ⟨List.forall_mem_cons.mpr ⟨fun equal => absurd equal same, refused⟩, left⟩
  | refuse _ _ _ ih =>
      obtain ⟨-, others⟩ := List.forall_mem_cons.mp sized
      obtain ⟨refused, left⟩ := ih others free full
      exact ⟨List.forall_mem_cons.mpr ⟨fun _ _ _ => rfl, refused⟩, left⟩

theorem yields (answers : roads.Answers rooms requests rooms') (laws : Quantity.Rationed α)
    (sized : ∀ request ∈ requests, Quantity.isPositive request.vehicle.pcu = true) :
    requests.Pairwise roads.Yields := by
  induction answers with
  | nil => exact .nil
  | grant _ _ _ ih =>
      obtain ⟨-, others⟩ := List.forall_mem_cons.mp sized
      refine List.pairwise_cons.mpr ⟨fun later _ refused => ?_, ih others⟩
      cases refused
  | refuse free full later ih =>
      obtain ⟨-, others⟩ := List.forall_mem_cons.mp sized
      refine List.pairwise_cons.mpr ⟨fun request listed _ => ?_, ih others⟩
      exact (later.full laws others free full).1 request listed

theorem full_left (answers : roads.Answers rooms requests rooms') (laws : Quantity.Rationed α)
    (sized : ∀ request ∈ requests, Quantity.isPositive request.vehicle.pcu = true)
    {request : Request α} (listed : request ∈ requests) (refused : request.granted = false) :
    ∃ room, rooms'.lookup request.target = some room ∧
      room.take? request.vehicle.pcu (roads.seeps request.vehicle.mode) = none := by
  induction answers with
  | nil => cases listed
  | grant _ _ _ ih =>
      obtain ⟨-, others⟩ := List.forall_mem_cons.mp sized
      rcases List.mem_cons.mp listed with rfl | listed
      · cases refused
      · exact ih others listed
  | refuse free full later ih =>
      obtain ⟨-, others⟩ := List.forall_mem_cons.mp sized
      rcases List.mem_cons.mp listed with rfl | listed
      · exact (later.full laws others free full).2
      · exact ih others listed

end Answers

/-- The links that a node serves first. -/
def leading (roads : Roads α) (node : NodeId) (count : Nat) : List LinkId :=
  ((roads.inbound? node).getD []).take count

/-- That two states are alike in all that a node's decision on the links served first depends
on: their queues and drivers, and the rooms of the outbound links. -/
structure StartsAs (roads' roads : Roads α) (population' population : Population)
    (network : Network α) (node : NodeId) (count : Nat) : Prop where
  seepFlags : roads'.seepFlags = roads.seepFlags
  stuckTicks : roads'.stuckTicks = roads.stuckTicks
  links : roads'.leading node count = roads.leading node count
  queues : ∀ link ∈ roads.leading node count, roads'.queue? link = roads.queue? link
  drivers : ∀ link ∈ roads.leading node count, ∀ queue, roads.queue? link = some queue →
    ∀ vehicle ∈ queue.vehicles, population'.get? vehicle.agent = population.get? vehicle.agent
  rooms : ∀ outgoing, network.outgoing? node = some outgoing →
    roads'.roomsOf outgoing = roads.roomsOf outgoing

section Prefix

variable {population' : Population} {links : List LinkId} {hearings : List (Hearing α)}

/-- The links that are served first are served before the others are looked at. -/
theorem hearLinks_take (heard : roads.hearLinks junction rooms links = .ok (hearings, rooms'))
    (count : Nat) : ∃ middle, roads.hearLinks junction rooms (links.take count) =
      .ok (hearings.take count, middle) := by
  induction links generalizing rooms hearings count with
  | nil =>
      cases heard
      refine ⟨rooms', ?_⟩
      rw [List.take_nil, List.take_nil]
      rfl
  | cons link rest ih =>
      cases count with
      | zero => exact ⟨rooms, rfl⟩
      | succ count =>
          simp only [hearLinks, Attempt.bind_eq_ok, Prod.exists, Attempt.pure_eq_ok,
            Prod.mk.injEq] at heard
          obtain ⟨queue, present, plan, requests, after, first, others, last, later, rfl, rfl⟩ :=
            heard
          obtain ⟨middle, taken⟩ := ih later count
          refine ⟨middle, ?_⟩
          rw [List.take_succ_cons, List.take_succ_cons]
          simp only [hearLinks, present, first, taken, bind, Except.bind]
          rfl

end Prefix

/-- That all vehicles have a positive size. -/
def Sized (roads : Roads α) : Prop :=
  ∀ link queue, roads.queue? link = some queue →
    ∀ vehicle ∈ queue.vehicles, Quantity.isPositive vehicle.pcu = true

theorem sized_iff : roads.Sized ↔
    ∀ position : Fin roads.queues.size, ∀ queue ∈ roads.queue? ⟨position⟩,
      ∀ vehicle ∈ queue.vehicles, Quantity.isPositive vehicle.pcu = true :=
  forall_queue?_iff

instance (roads : Roads α) : Decidable roads.Sized :=
  decidable_of_decidable_of_iff sized_iff.symm

section Node

variable {network : Network α} {population : Population} {context : RouteContext} {node : NodeId}
  {hearings : List (Hearing α)} {left : Rooms α} {decision : NodeDecision}

theorem Hears.sized {hearing : Hearing α} {queue : LinkQueue α}
    (hears : roads.Hears junction hearing queue) (sized : roads.Sized) {request : Request α}
    (listed : request ∈ hearing.requests) :
    Quantity.isPositive request.vehicle.pcu = true := by
  obtain ⟨_, _, _, -, reports⟩ := hears.served
  apply sized hearing.link queue hears.present
  exact reports.inOrder.mem (List.mem_map_of_mem listed)

theorem sized_of_hearings (sized : roads.Sized)
    (hears : ∀ hearing ∈ hearings, ∃ queue, roads.Hears junction hearing queue) :
    ∀ request ∈ hearings.flatMap (·.requests), Quantity.isPositive request.vehicle.pcu = true := by
  intro request listed
  obtain ⟨hearing, member, inside⟩ := List.mem_flatMap.mp listed
  obtain ⟨queue, hears⟩ := hears hearing member
  exact hears.sized sized inside

theorem StartsAs.take_hear {population' : Population} {count : Nat}
    {hearings' : List (Hearing α)} {left' : Rooms α}
    (starts : roads'.StartsAs roads population' population network node count)
    (heard : roads.hear network population context node = .ok (hearings, left))
    (heard' : roads'.hear network population' context node = .ok (hearings', left')) :
    hearings'.take count = hearings.take count := by
  obtain ⟨outgoing, links, rooms, leaving, coming, opened, heard⟩ := hear_eq_ok.mp heard
  obtain ⟨outgoing', links', rooms', leaving', coming', opened', heard'⟩ := hear_eq_ok.mp heard'
  cases leaving.symm.trans leaving'
  cases opened.symm.trans ((starts.rooms outgoing leaving).symm.trans opened')
  have first : roads.leading node count = links.take count := by rw [leading, coming]; rfl
  have first' : roads'.leading node count = links'.take count := by rw [leading, coming']; rfl
  have same : links'.take count = links.take count := first'.symm.trans (starts.links.trans first)
  have queues := starts.queues
  have drivers := starts.drivers
  rw [first] at queues drivers
  obtain ⟨middle, taken⟩ := hearLinks_take heard count
  obtain ⟨middle', taken'⟩ := hearLinks_take heard' count
  have alike : roads'.hearLinks ⟨node, network, population', context⟩ rooms (links.take count) =
      roads.hearLinks ⟨node, network, population, context⟩ rooms (links.take count) :=
    hearLinks_congr starts.seepFlags starts.stuckTicks queues (fun link listed queue present
      vehicle member => .of_get? (drivers link listed queue present vehicle member)) rooms
  rw [same, alike, taken] at taken'
  exact (congrArg Prod.fst (Except.ok.inj taken')).symm

theorem roomsOf_congr {links : List LinkId}
    (queues : ∀ link ∈ links, roads'.queue? link = roads.queue? link) :
    roads'.roomsOf links = roads.roomsOf links := by
  induction links with
  | nil => rfl
  | cons link rest ih =>
      obtain ⟨first, others⟩ := List.forall_mem_cons.mp queues
      have later := ih others
      unfold roomsOf at later ⊢
      rw [List.mapM_cons, List.mapM_cons, later]
      simp only [Roads.queue, first]

/-- Whatever becomes of a link that is served later and is not entered from the node, the links
served first are served as before. -/
theorem StartsAs.setQueue {link : LinkId} {old : LinkQueue α} {count : Nat}
    (present : roads.queue? link = some old) (later : link ∉ roads.leading node count)
    (apart : ∀ outgoing, network.outgoing? node = some outgoing → link ∉ outgoing)
    (queue : LinkQueue α) :
    (roads.setQueue link queue).StartsAs roads population population network node count where
  seepFlags := rfl
  stuckTicks := rfl
  links := rfl
  queues other listed := by
    rw [queue?_setQueue present, if_neg]
    rintro rfl
    exact later listed
  drivers _ _ _ _ _ _ := rfl
  rooms outgoing leaving := by
    apply roomsOf_congr
    intro other listed
    rw [queue?_setQueue present, if_neg]
    rintro rfl
    exact apart outgoing leaving listed

/-- A node serves its inbound links by priority. What it decides for the first of them does not
depend on the others, and once a vehicle has been turned away by a link, no later one that is as
large gets in ahead of it unless by seeping. -/
theorem decide_by_priority (laws : Quantity.Rationed α) (sized : roads.Sized)
    (decided : roads.decide network population context node = .ok decision) :
    ∃ inbound hearings left,
      roads.inbound? node = some inbound ∧
      roads.hear network population context node = .ok (hearings, left) ∧
      decision = .ofHearings node hearings ∧
      hearings.map (·.link) = inbound ∧
      (∀ hearing ∈ hearings, ∃ queue,
        roads.Hears ⟨node, network, population, context⟩ hearing queue) ∧
      (∀ (count : Nat) (roads' : Roads α) (population' : Population) (decision' : NodeDecision),
        roads'.StartsAs roads population' population network node count →
          roads'.decide network population' context node = .ok decision' →
            ∃ hearings' left',
              roads'.hear network population' context node = .ok (hearings', left') ∧
              decision' = .ofHearings node hearings' ∧
              hearings'.take count = hearings.take count) ∧
      (hearings.flatMap (·.requests)).Pairwise roads.Yields ∧
      (roads.inbound = rankInbound roads.order network → network.Sound → network.Filed →
        network.Finite → network.Prioritises roads.order node inbound) := by
  obtain ⟨hearings, left, heard, rfl⟩ := decide_eq_ok_iff_hear.mp decided
  obtain ⟨outgoing, inbound, rooms, leaving, coming, opened, served⟩ := hear_eq_ok.mp heard
  obtain ⟨names, hears, answers⟩ := hears_of_hearLinks served
  refine ⟨inbound, hearings, left, coming, heard, rfl, names, hears, ?_, ?_, ?_⟩
  · intro count roads' population' decision' starts decided'
    obtain ⟨hearings', left', heard', rfl⟩ := decide_eq_ok_iff_hear.mp decided'
    exact ⟨hearings', left', heard', rfl, starts.take_hear heard heard'⟩
  · exact answers.yields laws (sized_of_hearings sized hears)
  · intro ranked sound filed finite
    apply Network.prioritises_of_rankInbound sound filed finite
    rw [← ranked]
    exact coming

end Node

end Roads

/-- Two of four vehicles fill up the link ahead of them. The others are turned away, first a narrow
one and then a wide one on the link served later, and without the latter it would all be the same
for the former. -/
theorem Bottleneck.decide_by_priority_of_four :
    ∃ (roads roads' : Roads Rat) (network : Network Rat) (population : Population)
      (context : RouteContext) (decision decision' : NodeDecision)
      (hearings hearings' : List (Hearing Rat)) (left left' : Rooms Rat),
      roads.Sized ∧ roads'.StartsAs roads population population network ⟨1⟩ 1 ∧
      roads.inbound? ⟨1⟩ = some [entry, ⟨2⟩] ∧
      roads.decide network population context ⟨1⟩ = .ok decision ∧ decision.rejections = 2 ∧
      roads'.decide network population context ⟨1⟩ = .ok decision' ∧ decision'.rejections = 1 ∧
      roads.hear network population context ⟨1⟩ = .ok (hearings, left) ∧
      roads'.hear network population context ⟨1⟩ = .ok (hearings', left') ∧
      hearings'.take 1 = hearings.take 1 ∧
      (hearings.flatMap (·.requests)).map (fun request =>
        (request.vehicle.agent, request.granted)) =
          [(⟨0⟩, true), (⟨1⟩, true), (⟨3⟩, false), (⟨2⟩, false)] ∧
      (hearings.flatMap (·.requests)).Pairwise roads.Yields := by
  have ran : drive? { draft with links := draft.links.push (link "side" 2 1 10) }
      [(narrow, 0, [entry, exit]), (wide, 0, [entry, exit]), (wide, 0, [⟨2⟩, exit]),
        (narrow, 0, [entry, exit])]
      (fun network population => { setup network population with dynamics := {} }) 1
      (fun _ _ _ sim =>
        (sim.world.roads.queue? ⟨2⟩).bind fun (queue : LinkQueue Rat) =>
        (sim.world.roads.hear sim.world.network sim.world.population
          (sim.world.context sim.flowPermanent) ⟨1⟩).toOption.bind
            fun (heard : List (Hearing Rat) × Rooms Rat) =>
        (sim.world.roads.decide sim.world.network sim.world.population
          (sim.world.context sim.flowPermanent) ⟨1⟩).toOption.bind
            fun (decision : NodeDecision) =>
        ((sim.world.roads.setQueue ⟨2⟩ { queue with vehicles := [] }).decide sim.world.network
          sim.world.population (sim.world.context sim.flowPermanent) ⟨1⟩).toOption.map
            fun (decision' : NodeDecision) =>
            decide sim.world.roads.Sized && decide (decision.rejections = 2) &&
              decide (decision'.rejections = 1) &&
              decide (sim.world.roads.inbound? ⟨1⟩ = some [entry, ⟨2⟩]) &&
              decide (sim.world.network.outgoing? ⟨1⟩ = some [exit]) &&
              decide ((heard.1.flatMap Hearing.requests).map (fun (request : Request Rat) =>
                (request.vehicle.agent, request.granted)) =
                  ([(⟨0⟩, true), (⟨1⟩, true), (⟨3⟩, false), (⟨2⟩, false)] :
                    List (AgentId × Bool)))) = some true := by decide +kernel
  obtain ⟨_, _, _, sim, _, -, -, -, -, -, seen⟩ := exists_of_drive? ran
  simp only [Option.bind_eq_some_iff, Option.map_eq_some_iff, Attempt.toOption_eq_some,
    Bool.and_eq_true, decide_eq_true_eq, Prod.exists] at seen
  obtain ⟨queue, present, hearings, left, heard, decision, decided, decision', decided',
    ⟨⟨⟨⟨sized, two⟩, one⟩, coming⟩, leaving⟩, answered⟩ := seen
  have starts : (sim.world.roads.setQueue ⟨2⟩ { queue with vehicles := [] }).StartsAs
      sim.world.roads sim.world.population sim.world.population sim.world.network ⟨1⟩ 1 := by
    apply Roads.StartsAs.setQueue present
    · rw [Roads.leading, coming]
      decide
    · intro outgoing leaving'
      cases leaving.symm.trans leaving'
      decide
  obtain ⟨_, hearings', left', -, again, -, -, -, alike, yields, -⟩ :=
    Roads.decide_by_priority Quantity.rationed_rat sized decided
  cases heard.symm.trans again
  obtain ⟨hearings', left', heard', -, same⟩ := alike 1 _ _ decision' starts decided'
  exact ⟨_, _, _, _, _, decision, decision', hearings, hearings', left, left', sized, starts,
    coming, decided, two, decided', one, heard, heard', same, answered, yields⟩

end MixedTraffic

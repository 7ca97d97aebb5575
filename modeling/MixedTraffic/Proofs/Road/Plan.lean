import MixedTraffic.Proofs.Population
import MixedTraffic.Proofs.Road.Hearing
import MixedTraffic.Proofs.Road.Mirror

namespace MixedTraffic

/-! The moves that a node decides on, without regard to flow and to who is held up: each is
that of a ready vehicle on an inbound link, and follows what its driver answers. -/

/-- That a move is what a driver asked for. Who is stuck had asked for a link as well. -/
def Move.Follows (move : Move) (answer : Option LinkId) : Prop :=
  match move with
  | transfer _ _ target => answer = some target
  | arrive .. => answer = none
  | stuck .. => answer.isSome

namespace Roads

variable {α : Type} {roads : Roads α} {junction : Junction α} {queue : LinkQueue α}

theorem ask_eq_ok {source : LinkId} {vehicle : Vehicle α} {answer : Option LinkId} :
    junction.ask source vehicle = .ok answer ↔
      ∃ agent, junction.population.get? vehicle.agent = some agent ∧
        agent.driver.nextLink? vehicle.agent source agent.trip.state.step junction.context =
          answer := by
  simp only [Junction.ask, Attempt.bind_eq_ok, Attempt.mapError_eq_ok,
    Population.find_eq_ok, Attempt.pure_eq_ok]

variable [Quantity α]

/-- Moves chosen for some vehicles of a queue, in their order. Each vehicle that moves on
takes room that those before it have left. -/
inductive Chooses (roads : Roads α) (junction : Junction α) (queue : LinkQueue α) :
    Rooms α → List (Vehicle α) → List Move → Rooms α → Prop where
  | done {rooms : Rooms α} {vehicles : List (Vehicle α)} :
      Chooses roads junction queue rooms vehicles [] rooms
  | pass {rooms rooms' : Rooms α} {vehicle : Vehicle α} {rest : List (Vehicle α)}
      {moves : List Move} (later : Chooses roads junction queue rooms rest moves rooms') :
      Chooses roads junction queue rooms (vehicle :: rest) moves rooms'
  | arrive {rooms rooms' : Rooms α} {vehicle : Vehicle α} {rest : List (Vehicle α)}
      {moves : List Move} (ready : vehicle.exitTick ≤ junction.context.now)
      (asked : junction.ask queue.link vehicle = .ok none)
      (later : Chooses roads junction queue rooms rest moves rooms') :
      Chooses roads junction queue rooms (vehicle :: rest)
        (.arrive queue.link vehicle.agent :: moves) rooms'
  | transfer {rooms rooms' : Rooms α} {vehicle : Vehicle α} {rest : List (Vehicle α)}
      {moves : List Move} {next : LinkId} {room room' : Room α} {seeping : Bool}
      (ready : vehicle.exitTick ≤ junction.context.now)
      (asked : junction.ask queue.link vehicle = .ok (some next))
      (free : rooms.lookup next = some room)
      (taken : room.take? vehicle.pcu (roads.seeps vehicle.mode) = some (seeping, room'))
      (later : Chooses roads junction queue (rooms.set next room') rest moves rooms') :
      Chooses roads junction queue rooms (vehicle :: rest)
        (.transfer queue.link vehicle.agent next :: moves) rooms'
  | stuck {rooms : Rooms α} {vehicle : Vehicle α} {rest : List (Vehicle α)}
      {next : LinkId} (ready : vehicle.exitTick ≤ junction.context.now)
      (asked : junction.ask queue.link vehicle = .ok (some next)) :
      Chooses roads junction queue rooms (vehicle :: rest)
        [.stuck queue.link vehicle.agent] rooms

theorem Serves.chooses {vehicles refused : List (Vehicle α)} {accumulator : α} {held : Bool}
    {rooms rooms' : Rooms α} {plan : LinkPlan}
    (serves : roads.Serves junction queue accumulator held rooms vehicles plan refused rooms') :
    roads.Chooses junction queue rooms vehicles plan.moves rooms' := by
  induction serves with
  | done | early | dry | last => exact .done
  | behind _ _ _ ih | first _ _ _ _ _ ih | again _ _ _ ih => exact .pass ih
  | arrive calls asked _ ih => exact .arrive calls.ready asked ih
  | transfer calls asked free taken _ ih => exact .transfer calls.ready asked free taken ih
  | stuck calls turned => exact .stuck calls.ready turned.asked

namespace Chooses

variable {rooms rooms' : Rooms α} {vehicles : List (Vehicle α)} {moves : List Move}

theorem agents_sublist (chooses : roads.Chooses junction queue rooms vehicles moves rooms') :
    (moves.map Move.agent).Sublist (vehicles.map (·.agent)) := by
  induction chooses with
  | done => exact List.nil_sublist _
  | pass _ ih => exact ih.cons _
  | arrive _ _ _ ih => exact ih.cons_cons _
  | transfer _ _ _ _ _ ih => exact ih.cons_cons _
  | stuck => exact (List.nil_sublist _).cons_cons _

theorem isSome_lookup (chooses : roads.Chooses junction queue rooms vehicles moves rooms')
    (key : LinkId) : (rooms'.lookup key).isSome = (rooms.lookup key).isSome := by
  induction chooses with
  | done | stuck => rfl
  | pass _ ih | arrive _ _ _ ih => exact ih
  | transfer _ _ free _ _ ih => rw [ih, Rooms.isSome_lookup_set free]

/-- Each move is that of a ready vehicle, which goes where its driver asked to go. -/
theorem grounds (chooses : roads.Chooses junction queue rooms vehicles moves rooms')
    {move : Move} (member : move ∈ moves) :
    move.source = queue.link ∧
      (∀ target ∈ move.target?, (rooms.lookup target).isSome) ∧
      ∃ vehicle ∈ vehicles, vehicle.agent = move.agent ∧
        vehicle.exitTick ≤ junction.context.now ∧
        ∃ answer, junction.ask queue.link vehicle = .ok answer ∧ move.Follows answer := by
  induction chooses with
  | done => cases member
  | pass _ ih =>
      obtain ⟨source, free, vehicle, listed, rest⟩ := ih member
      exact ⟨source, free, vehicle, List.mem_cons_of_mem _ listed, rest⟩
  | arrive ready asked _ ih =>
      cases member with
      | head =>
          exact ⟨rfl, by simp [Move.target?], _, List.mem_cons_self, rfl, ready, _, asked, rfl⟩
      | tail _ later =>
          obtain ⟨source, free, vehicle, listed, rest⟩ := ih later
          exact ⟨source, free, vehicle, List.mem_cons_of_mem _ listed, rest⟩
  | transfer ready asked free _ _ ih =>
      cases member with
      | head =>
          refine ⟨rfl, ?_, _, List.mem_cons_self, rfl, ready, _, asked, rfl⟩
          intro target same
          cases same
          rw [free]
          rfl
      | tail _ later =>
          obtain ⟨source, open', vehicle, listed, rest⟩ := ih later
          refine ⟨source, fun target same => ?_, vehicle, List.mem_cons_of_mem _ listed, rest⟩
          rw [← Rooms.isSome_lookup_set free]
          exact open' target same
  | stuck ready asked =>
      cases member with
      | head =>
          exact ⟨rfl, by simp [Move.target?], _, List.mem_cons_self, rfl, ready, _, asked, rfl⟩
      | tail _ later => cases later

end Chooses

inductive ChoosesAll (roads : Roads α) (junction : Junction α) :
    Rooms α → List LinkId → List Move → Rooms α → Prop where
  | nil {rooms : Rooms α} : ChoosesAll roads junction rooms [] [] rooms
  | cons {rooms middle rooms' : Rooms α} {link : LinkId} {rest : List LinkId}
      {queue : LinkQueue α} {moves others : List Move}
      (present : roads.queue? link = some queue)
      (chosen : Chooses roads junction queue rooms queue.vehicles moves middle)
      (later : ChoosesAll roads junction middle rest others rooms') :
      ChoosesAll roads junction rooms (link :: rest) (moves ++ others) rooms'

theorem ServesAll.chooses {rooms rooms' : Rooms α} {links : List LinkId}
    {services : List (Service α)}
    (serves : roads.ServesAll junction rooms links services rooms') :
    roads.ChoosesAll junction rooms links (services.flatMap (·.plan.moves)) rooms' := by
  induction serves with
  | nil => exact .nil
  | cons present serves _ ih => exact .cons present serves.chooses ih

def queueing (roads : Roads α) (link : LinkId) : List AgentId :=
  (roads.queue? link).elim [] fun queue => queue.vehicles.map (·.agent)

namespace ChoosesAll

variable {rooms rooms' : Rooms α} {links : List LinkId} {moves : List Move}

theorem agents_sublist (chooses : roads.ChoosesAll junction rooms links moves rooms') :
    (moves.map Move.agent).Sublist (links.flatMap roads.queueing) := by
  induction chooses with
  | nil => exact List.nil_sublist _
  | cons present chosen _ ih =>
      rw [List.map_append, List.flatMap_cons, queueing, present]
      exact chosen.agents_sublist.append ih

theorem grounds (chooses : roads.ChoosesAll junction rooms links moves rooms')
    (labelled : roads.Labelled) {move : Move} (member : move ∈ moves) :
    move.source ∈ links ∧ (∀ target ∈ move.target?, (rooms.lookup target).isSome) ∧
      ∃ vehicle, (move.source, vehicle) ∈ roads.fleet ∧ vehicle.agent = move.agent ∧
        vehicle.exitTick ≤ junction.context.now ∧
        ∃ answer, junction.ask move.source vehicle = .ok answer ∧ move.Follows answer := by
  induction chooses with
  | nil => cases member
  | cons present chosen _ ih =>
      obtain first | other := List.mem_append.mp member
      · obtain ⟨source, free, vehicle, listed, own, ready, asked⟩ := chosen.grounds first
        rw [labelled _ _ present] at source asked
        rw [source]
        exact ⟨List.mem_cons_self, free, vehicle,
          (mem_fleet labelled).mpr ⟨_, present, listed⟩, own, ready, asked⟩
      · obtain ⟨source, free, rest⟩ := ih other
        refine ⟨List.mem_cons_of_mem _ source, fun target same => ?_, rest⟩
        rw [← chosen.isSome_lookup]
        exact free target same

end ChoosesAll

theorem lookup_of_roomsOf {links : List LinkId} {rooms : Rooms α}
    (opened : roads.roomsOf links = .ok rooms) (link : LinkId) :
    rooms.lookup link =
      if link ∈ links then (roads.queue? link).map (·.room) else none := by
  induction links generalizing rooms with
  | nil =>
      cases opened
      rfl
  | cons first rest ih =>
      simp only [roomsOf, List.mapM_cons, Roads.queue, Attempt.bind_eq_ok, Attempt.elim_eq_ok,
        Attempt.pure_eq_ok] at opened
      obtain ⟨_, ⟨queue, present, rfl⟩, others, opened, rfl⟩ := opened
      rw [List.lookup_cons]
      by_cases own : link = first
      · simp [own, present]
      · have kept := ih opened
        simp [beq_eq_false_iff_ne.mpr own, own, kept]

/-- What a node knows when it decides on a move of `vehicle`. -/
structure Grounds (roads : Roads α) (network : Network α) (population : Population)
    (context : RouteContext) (move : Move) (vehicle : Vehicle α) (agent : Agent) : Prop where
  aboard : (move.source, vehicle) ∈ roads.fleet
  own : vehicle.agent = move.agent
  ready : vehicle.exitTick ≤ context.now
  found : population.get? move.agent = some agent
  follows : move.Follows
    (agent.driver.nextLink? move.agent move.source agent.trip.state.step context)
  joined : ∀ target ∈ move.target?, network.isSuccessor? move.source target = some true

/-- What a node decides: moves on its inbound links, into the rooms of its outbound ones. -/
structure Decides (roads : Roads α) (network : Network α) (population : Population)
    (context : RouteContext) (node : NodeId) (decision : NodeDecision)
    (outgoing inbound : List LinkId) (rooms : Rooms α) : Prop where
  leaving : network.outgoing? node = some outgoing
  coming : roads.inbound? node = some inbound
  opened : roads.roomsOf outgoing = .ok rooms
  chosen : ∃ rooms', roads.ChoosesAll ⟨node, network, population, context⟩ rooms inbound
    decision.moves rooms'
  blocked : ∀ entry ∈ decision.blocked, (roads.queue? entry.1).isSome

section Decide

variable {network : Network α} {population : Population} {context : RouteContext}
  {node : NodeId} {decision : NodeDecision} {outgoing inbound : List LinkId}
  {rooms : Rooms α} {tickSecs : Nat}

theorem decides_of_decide
    (decided : roads.decide network population context node = .ok decision) :
    ∃ outgoing inbound rooms,
      roads.Decides network population context node decision outgoing inbound rooms := by
  obtain ⟨services, attends, rfl⟩ := decide_eq_ok.mp decided
  obtain ⟨outgoing, inbound, rooms, rooms', leaving, coming, opened, serves⟩ := attends.served
  refine ⟨outgoing, inbound, rooms, leaving, coming, opened, ⟨rooms', serves.chooses⟩, ?_⟩
  intro entry marked
  obtain ⟨service, listed, marked⟩ := List.mem_flatMap.mp marked
  obtain ⟨queue, -, -, present, -⟩ := serves.serves_of_mem listed
  rw [Service.link_of_mem_marks marked]
  exact Option.isSome_of_eq_some present

namespace Decides

theorem mem_inbound (decides : roads.Decides network population context node decision outgoing
      inbound rooms) (sound : network.Sound) (mirrors : roads.Mirrors tickSecs network)
    {link : LinkId} : link ∈ inbound ↔
      ∃ attributes, network.link? link = some attributes ∧ attributes.finish = node := by
  have ranked := mirrors.inbound node
  rw [decides.coming] at ranked
  generalize filed : network.incoming? node = row at ranked
  cases ranked with
  | some perm => rw [perm.mem_iff, sound.mem_incoming filed]

theorem grounds (decides : roads.Decides network population context node decision outgoing
      inbound rooms) (sound : network.Sound) (mirrors : roads.Mirrors tickSecs network)
    (labelled : roads.Labelled) {move : Move} (member : move ∈ decision.moves) :
    ∃ vehicle agent, roads.Grounds network population context move vehicle agent := by
  obtain ⟨rooms', chooses⟩ := decides.chosen
  obtain ⟨source, free, vehicle, aboard, own, ready, answer, asked, follows⟩ :=
    chooses.grounds labelled member
  obtain ⟨agent, found, rfl⟩ := ask_eq_ok.mp asked
  rw [own] at found follows
  refine ⟨vehicle, agent, aboard, own, ready, found, follows, fun target same => ?_⟩
  have leaves := free target same
  rw [lookup_of_roomsOf decides.opened] at leaves
  split at leaves
  · rename_i listed
    obtain ⟨following, found', start⟩ := (sound.mem_outgoing decides.leaving).mp listed
    obtain ⟨leading, found, finish⟩ := (decides.mem_inbound sound mirrors).mp source
    exact Network.isSuccessor?_eq_true.mpr
      ⟨leading, following, found, found', start.trans finish.symm⟩
  · cases leaves

end Decides

end Decide

end Roads

end MixedTraffic

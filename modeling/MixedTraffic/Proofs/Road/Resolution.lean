import MixedTraffic.Proofs.Road.Plan

namespace MixedTraffic

/-! A node comes to a decision whenever the drivers on its inbound links ask for links that
leave it. -/

namespace Roads

variable {α : Type} {roads : Roads α} {junction : Junction α} {queue : LinkQueue α}
  {rooms : Rooms α}

/-- That a driver answers, and asks for a link that there is room known of. -/
def Junction.Answers (junction : Junction α) (rooms : Rooms α) (source : LinkId)
    (vehicle : Vehicle α) : Prop :=
  ∃ answer, junction.ask source vehicle = .ok answer ∧
    ∀ next ∈ answer, (rooms.lookup next).isSome

theorem Junction.Answers.congr {rooms' : Rooms α} {source : LinkId} {vehicle : Vehicle α}
    (answers : junction.Answers rooms source vehicle)
    (same : ∀ key, (rooms'.lookup key).isSome = (rooms.lookup key).isSome) :
    junction.Answers rooms' source vehicle := by
  obtain ⟨answer, asked, known⟩ := answers
  exact ⟨answer, asked, fun next chosen => (same next).trans (known next chosen)⟩

variable [Quantity α]

section Vehicles

variable {vehicle : Vehicle α} {vehicles rest : List (Vehicle α)} {accumulator : α} {held : Bool}

theorem TurnsAway.exists_serves {next : LinkId} {room : Room α}
    (turned : roads.TurnsAway junction queue.link rooms vehicle next room)
    (calls : roads.Calls junction accumulator held vehicle)
    (later : ∃ plan refused rooms',
      roads.Serves junction queue accumulator true rooms rest plan refused rooms') :
    ∃ plan refused rooms',
      roads.Serves junction queue accumulator held rooms (vehicle :: rest) plan refused rooms' := by
  obtain ⟨plan, refused, rooms', later⟩ := later
  cases held with
  | true => exact ⟨_, _, _, .again calls turned later⟩
  | false =>
      cases stuck : roads.isStuck queue vehicle.agent junction.context.now with
      | true => exact ⟨_, _, _, .stuck calls turned stuck⟩
      | false =>
          cases seeps : roads.anySeeps with
          | true => exact ⟨_, _, _, .first calls turned stuck seeps later⟩
          | false => exact ⟨_, _, _, .last calls turned stuck seeps⟩

variable (roads) in
theorem exists_serves_of_answers (accumulator : α) (held : Bool)
    (answers : ∀ vehicle ∈ vehicles, junction.Answers rooms queue.link vehicle) :
    ∃ plan refused rooms',
      roads.Serves junction queue accumulator held rooms vehicles plan refused rooms' := by
  induction vehicles generalizing accumulator held rooms with
  | nil => exact ⟨_, _, _, .done⟩
  | cons vehicle rest ih =>
      obtain ⟨⟨answer, asked, known⟩, others⟩ := List.forall_mem_cons.mp answers
      by_cases early : junction.context.now < vehicle.exitTick
      · exact ⟨_, _, _, .early early⟩
      have ready := Nat.le_of_not_lt early
      by_cases passes : held = true → roads.seeps vehicle.mode = true
      swap
      · obtain ⟨rfl, stays⟩ : held = true ∧ roads.seeps vehicle.mode = false := by
          simpa using passes
        obtain ⟨plan, refused, rooms', later⟩ := ih accumulator true others
        exact ⟨_, _, _, .behind ready stays later⟩
      by_cases dry : accumulator + Quantity.slack < vehicle.pcu
      · exact ⟨_, _, _, .dry ready passes dry⟩
      have calls : roads.Calls junction accumulator held vehicle := ⟨ready, passes, dry⟩
      cases answer with
      | none =>
          obtain ⟨plan, refused, rooms', later⟩ := ih (accumulator - vehicle.pcu) held others
          exact ⟨_, _, _, .arrive calls asked later⟩
      | some next =>
          obtain ⟨room, free⟩ := Option.isSome_iff_exists.mp (known next rfl)
          cases taken : room.take? vehicle.pcu (roads.seeps vehicle.mode) with
          | some taking =>
              have same := Rooms.isSome_lookup_set free taking.2
              obtain ⟨plan, refused, rooms', later⟩ := ih (accumulator - vehicle.pcu) held
                fun other listed => (others other listed).congr same
              exact ⟨_, _, _, .transfer calls asked free taken later⟩
          | none =>
              have turned : roads.TurnsAway junction queue.link rooms vehicle next room :=
                ⟨asked, free, taken⟩
              exact turned.exists_serves calls (ih accumulator true others)

end Vehicles

def AnswersOn (roads : Roads α) (junction : Junction α) (rooms : Rooms α) (link : LinkId) :
    Prop :=
  ∃ queue, roads.queue? link = some queue ∧
    ∀ vehicle ∈ queue.vehicles, junction.Answers rooms queue.link vehicle

theorem exists_servesAll {links : List LinkId}
    (answers : ∀ link ∈ links, roads.AnswersOn junction rooms link) :
    ∃ services rooms', roads.ServesAll junction rooms links services rooms' := by
  induction links generalizing rooms with
  | nil => exact ⟨_, _, .nil⟩
  | cons link rest ih =>
      obtain ⟨⟨queue, present, first⟩, others⟩ := List.forall_mem_cons.mp answers
      obtain ⟨plan, refused, middle, serves⟩ :=
        exists_serves_of_answers roads queue.accumulator false first
      have same := serves.chooses.isSome_lookup
      obtain ⟨services, rooms', later⟩ := @ih middle fun other listed => by
        obtain ⟨queue, present, answers⟩ := others other listed
        exact ⟨queue, present, fun vehicle aboard => (answers vehicle aboard).congr same⟩
      exact ⟨_, _, .cons present serves later⟩

theorem exists_roomsOf {links : List LinkId}
    (present : ∀ link ∈ links, (roads.queue? link).isSome) :
    ∃ rooms, roads.roomsOf links = .ok rooms := by
  apply Attempt.exists_mapM
  intro link listed
  obtain ⟨queue, found⟩ := Option.isSome_iff_exists.mp (present link listed)
  simp only [Roads.queue, found, Option.elim_some, bind, Except.bind]
  exact ⟨_, rfl⟩

section Decide

variable {network : Network α} {population : Population} {context : RouteContext}
  {tickSecs : Nat}

/-- That every driver on the road asks for a link that leaves the node at the end of its
link, or for none. -/
def Directed (roads : Roads α) (network : Network α) (population : Population)
    (context : RouteContext) : Prop :=
  ∀ ⦃link vehicle⦄, (link, vehicle) ∈ roads.fleet →
    ∃ agent, population.get? vehicle.agent = some agent ∧
      ∀ next ∈ agent.driver.nextLink? vehicle.agent link agent.trip.state.step context,
        network.isSuccessor? link next = some true

theorem exists_decide (sound : network.Sound) (mirrors : roads.Mirrors tickSecs network)
    (labelled : roads.Labelled) (directed : roads.Directed network population context)
    {node : NodeId} (bound : node.index < network.nodes.size) :
    ∃ decision, roads.decide network population context node = .ok decision := by
  obtain ⟨outgoing, leaving⟩ : ∃ outgoing, network.outgoing? node = some outgoing :=
    ⟨_, Array.getElem?_eq_getElem (sound.outgoing ▸ bound)⟩
  obtain ⟨incoming, filed⟩ : ∃ incoming, network.incoming? node = some incoming :=
    ⟨_, Array.getElem?_eq_getElem (sound.incoming ▸ bound)⟩
  have exists' {link : LinkId} (found : (network.link? link).isSome) :
      ∃ queue, roads.queue? link = some queue :=
    Option.isSome_iff_exists.mp ((mirrors.isSome_queue? link).trans found)
  have ranked := mirrors.inbound node
  rw [filed] at ranked
  obtain ⟨inbound, coming, perm⟩ : ∃ inbound, roads.inbound? node = some inbound ∧
      inbound.Perm incoming := by
    generalize roads.inbound? node = row at ranked
    cases ranked with
    | some perm => exact ⟨_, rfl, perm⟩
  obtain ⟨rooms, opened⟩ := @exists_roomsOf _ roads _ outgoing fun link listed => by
    obtain ⟨attributes, found, -⟩ := (sound.mem_outgoing leaving).mp listed
    obtain ⟨queue, present⟩ := exists' (Option.isSome_of_eq_some found)
    exact Option.isSome_of_eq_some present
  obtain ⟨services, rooms', serves⟩ := @exists_servesAll _ roads
    ⟨node, network, population, context⟩ rooms _ inbound fun link listed => by
    obtain ⟨attributes, found, finish⟩ :=
      (sound.mem_incoming filed).mp (perm.mem_iff.mp listed)
    obtain ⟨queue, present⟩ := exists' (Option.isSome_of_eq_some found)
    refine ⟨queue, present, fun vehicle aboard => ?_⟩
    obtain ⟨agent, member, follows⟩ :=
      directed ((mem_fleet labelled).mpr ⟨queue, present, aboard⟩)
    rw [labelled link queue present]
    refine ⟨_, ask_eq_ok.mpr ⟨agent, member, rfl⟩, fun next chosen => ?_⟩
    obtain ⟨leading, following, found', reached, start⟩ :=
      Network.isSuccessor?_eq_true.mp (follows next chosen)
    cases found.symm.trans found'
    obtain ⟨queue, present⟩ := exists' (Option.isSome_of_eq_some reached)
    have leaves : next ∈ outgoing :=
      (sound.mem_outgoing leaving).mpr ⟨following, reached, start.trans finish⟩
    rw [lookup_of_roomsOf opened, if_pos leaves, present]
    rfl
  exact ⟨_, decide_eq_ok.mpr
    ⟨services, ⟨outgoing, inbound, rooms, rooms', leaving, coming, opened, serves⟩, rfl⟩⟩

end Decide

end Roads

end MixedTraffic

import MixedTraffic.Proofs.Run.Squeeze

namespace MixedTraffic

namespace Squeeze

/-! In the second interval of such a setup, the decisions of the nodes cannot be carried out. -/

variable {table : ModeTable Rat} {dynamics : Dynamics Rat}

/-- A queue as it is opened, apart from its flow. -/
structure Bare (squeeze : Squeeze table dynamics) (queue : LinkQueue Rat) (key : LinkId)
    (storage : Rat) : Prop where
  flows : squeeze.Flows queue
  link : queue.link = key
  vehicles : queue.vehicles = []
  occupied : queue.occupied = 0
  seepOccupied : queue.seepOccupied = 0
  storage : queue.storage = Quantity.larger storage table.maxPcu
  seepStorage : queue.seepStorage =
    dynamics.seepage.elim 0 fun seepage => queue.storage * seepage.fraction

def Rides (population : Population) (id : AgentId) (route : List LinkId) : Prop :=
  ∃ agent, population.get? id = some agent ∧ agent.driver = .fixed route ∧
    agent.trip.state.step = 0

/-- The roads and the population once the first vehicles have departed, and the given ones
behind them. -/
structure Standing (squeeze : Squeeze table dynamics) (roads : Roads Rat)
    (population : Population) (behind : List (Vehicle Rat)) : Prop where
  inbound : roads.inbound = #[[target], [source], []]
  seeps : ∀ mode, roads.seeps mode = true ↔ dynamics.LetsSeep table mode
  ahead : ∃ queue vehicle, squeeze.Bare queue target squeeze.storage ∧
    vehicle.Boarded ⟨0⟩ squeeze.narrow squeeze.small 1 ∧
    roads.queue? target = some (queue.lined (vehicle :: behind))
  coming : ∃ queue first second, squeeze.Bare queue source (squeeze.big.pcu + squeeze.small.pcu) ∧
    first.Boarded ⟨1⟩ squeeze.wide squeeze.big 1 ∧
    second.Boarded ⟨2⟩ squeeze.narrow squeeze.small 1 ∧
    roads.queue? source = some (queue.lined [first, second])
  rides : Rides population ⟨0⟩ [target] ∧ Rides population ⟨1⟩ [source, target] ∧
    Rides population ⟨2⟩ [source, target]

variable {squeeze : Squeeze table dynamics} {queue : LinkQueue Rat} {key : LinkId}
  {storage : Rat} {roads : Roads Rat} {population : Population} {traffic : Traffic Rat}
  {behind : List (Vehicle Rat)}

theorem Bare.refill (bare : squeeze.Bare queue key storage) :
    squeeze.Bare queue.refill key storage :=
  ⟨bare.flows.refill, bare.link, bare.vehicles, bare.occupied, bare.seepOccupied, bare.storage,
    bare.seepStorage⟩

theorem bare_ofLink (key : LinkId) (name : String) (start finish : Nat) (storage : Rat) :
    squeeze.Bare (.ofLink key (squeeze.link name start finish storage) dynamics table 1) key
      storage :=
  ⟨flows_ofLink .., rfl, rfl, rfl, rfl, rfl, rfl⟩

theorem Standing.refill (standing : squeeze.Standing roads population behind) :
    squeeze.Standing roads.refill population behind := by
  obtain ⟨inbound, seeps, ⟨queue, vehicle, bare, boarded, present⟩,
    ⟨queue', first, second, bare', boarded₁, boarded₂, present'⟩, rides⟩ := standing
  refine ⟨inbound, seeps, ⟨queue.refill, vehicle, bare.refill, boarded, ?_⟩,
    ⟨queue'.refill, first, second, bare'.refill, boarded₁, boarded₂, ?_⟩, rides⟩
  · exact Roads.queue?_refill present
  · exact Roads.queue?_refill present'

theorem Bare.room_regular (bare : squeeze.Bare queue key storage) :
    queue.room.regular = Quantity.larger storage table.maxPcu := by
  change queue.storage - queue.occupied = _
  rw [bare.occupied, bare.storage, sub_zero]

theorem Bare.room (bare : squeeze.Bare queue target squeeze.storage)
    {vehicle : Vehicle Rat} (boarded : vehicle.Boarded ⟨0⟩ squeeze.narrow squeeze.small 1)
    (sum : (behind.map (·.pcu)).sum = squeeze.fillers * squeeze.small.pcu) :
    (queue.lined (vehicle :: behind)).room.regular = squeeze.spare ∧
      squeeze.big.pcu ≤ (queue.lined (vehicle :: behind)).room.seepage := by
  have storage : queue.storage = squeeze.storage := by
    rw [bare.storage, Quantity.larger_eq_max]
    exact max_eq_left squeeze.holdsAll
  rw [LinkQueue.room_lined, List.map_cons, List.sum_cons, sum, boarded.pcu]
  constructor
  · change queue.storage - queue.occupied - _ = _
    rw [bare.occupied, storage, Squeeze.storage]
    ring
  · change squeeze.big.pcu ≤ queue.seepStorage - queue.seepOccupied
    obtain ⟨seepage, -, given, -⟩ := squeeze.seeps
    rw [bare.seepOccupied, bare.seepStorage, given, storage, sub_zero]
    exact squeeze.seepRoom seepage given

section Decisions

variable {context : RouteContext} {first second : LinkQueue Rat} {plan plan' : LinkPlan}
  {refused refused' : List (Vehicle Rat)} {rooms rooms' : Rooms Rat}

/-- The decisions of the nodes, from how each of them serves its one inbound link. -/
theorem exists_decisions (inbound : traffic.roads.inbound = #[[target], [source], []])
    (present : traffic.roads.queue? target = some first)
    (present' : traffic.roads.queue? source = some second)
    (serves : traffic.roads.Serves ⟨⟨0⟩, squeeze.network, traffic.population, context⟩
      first first.accumulator false [] first.vehicles plan refused rooms)
    (serves' : traffic.roads.Serves ⟨⟨1⟩, squeeze.network, traffic.population, context⟩
      second second.accumulator false [(target, first.room)] second.vehicles plan' refused' rooms')
    (kept : plan.blocked = none) (kept' : plan'.blocked = none) :
    ∃ decisions, World.decideAll squeeze.network context traffic = .ok decisions ∧
      decisions.flatMap (·.orders) = (plan.moves ++ plan'.moves).map .ofMove := by
  have inbound₀ : traffic.roads.inbound? ⟨0⟩ = some [target] := by rw [Roads.inbound?, inbound]; rfl
  have inbound₁ : traffic.roads.inbound? ⟨1⟩ = some [source] := by rw [Roads.inbound?, inbound]; rfl
  have inbound₂ : traffic.roads.inbound? ⟨2⟩ = some [] := by rw [Roads.inbound?, inbound]; rfl
  have opened₁ : traffic.roads.roomsOf [target] = .ok [(target, first.room)] := by
    simp [Roads.roomsOf, Roads.queue, present, bind, Except.bind, pure, Except.pure]
  have opened₂ : traffic.roads.roomsOf [source] = .ok [(source, second.room)] := by
    simp [Roads.roomsOf, Roads.queue, present', bind, Except.bind, pure, Except.pure]
  have decided₀ := Roads.decide_eq_ok.mpr
    ⟨_, ⟨[], _, [], _, rfl, inbound₀, rfl, .cons present serves .nil⟩, rfl⟩
  have decided₁ := Roads.decide_eq_ok.mpr
    ⟨_, ⟨[target], _, _, _, rfl, inbound₁, opened₁, .cons present' serves' .nil⟩, rfl⟩
  have decided₂ : traffic.roads.decide squeeze.network traffic.population context ⟨2⟩ = .ok _ :=
    Roads.decide_eq_ok.mpr ⟨[], ⟨[source], _, _, _, rfl, inbound₂, opened₂, .nil⟩, rfl⟩
  refine ⟨_, Attempt.mapM_eq_ok.mpr (.cons decided₀ (.cons decided₁ (.cons decided₂ .nil))), ?_⟩
  simp [NodeDecision.orders, NodeDecision.ofServices, Service.marks, kept, kept']

/-- As long as nobody may leave a link, nothing is ordered. -/
theorem Standing.idle (standing : squeeze.Standing traffic.roads traffic.population [])
    (now : context.now = 0) :
    ∃ decisions, World.decideAll squeeze.network context traffic = .ok decisions ∧
      decisions.flatMap (·.orders) = [] := by
  obtain ⟨inbound, -, ⟨queue, vehicle, bare, boarded, present⟩,
    ⟨queue', first, second, bare', boarded₁, -, present'⟩, -⟩ := standing
  refine exists_decisions inbound present present' (Roads.serves_of_early ?_)
    (Roads.serves_of_early ?_) rfl rfl
  · intro head same
    rw [LinkQueue.lined, bare.vehicles] at same
    cases same
    change context.now < vehicle.exitTick
    rw [now, boarded.exitTick]
    exact Nat.one_pos
  · intro head same
    rw [LinkQueue.lined, bare'.vehicles] at same
    cases same
    change context.now < first.exitTick
    rw [now, boarded₁.exitTick]
    exact Nat.one_pos

/-- The driver of an agent on its first link asks for the second, if there is one. -/
theorem Rides.ask {id : AgentId} {link : LinkId} {rest : List LinkId} {vehicle : Vehicle Rat}
    {node : NodeId} {network : Network Rat} (rides : Rides traffic.population id (link :: rest))
    (own : vehicle.agent = id) (at' : LinkId) :
    (Roads.Junction.mk node network traffic.population context).ask at' vehicle =
      .ok rest.head? := by
  obtain ⟨agent, found, driver, step⟩ := rides
  refine Roads.ask_eq_ok.mpr ⟨agent, own ▸ found, ?_⟩
  rw [driver, step, List.head?_eq_getElem?]
  rfl

theorem serves_ahead {vehicle : Vehicle Rat} {network : Network Rat} (now : context.now = 1)
    (bare : squeeze.Bare queue target squeeze.storage)
    (boarded : vehicle.Boarded ⟨0⟩ squeeze.narrow squeeze.small 1)
    (rides : Rides traffic.population ⟨0⟩ [target])
    (early : ∀ vehicle ∈ behind.head?, 1 < vehicle.exitTick) :
    traffic.roads.Serves ⟨⟨0⟩, network, traffic.population, context⟩
      (queue.lined (vehicle :: behind)) queue.accumulator false []
      (queue.lined (vehicle :: behind)).vehicles { moves := [.arrive target ⟨0⟩] } [] [] := by
  have flow := bare.flows.brimful.trans_ge bare.flows.ceiling
  have big := (sizes_pos squeeze).1
  have slack := Quantity.slack_pos
  have vehicles : (queue.lined (vehicle :: behind)).vehicles = vehicle :: behind := by
    rw [LinkQueue.lined, bare.vehicles]
    rfl
  have later : traffic.roads.Serves ⟨⟨0⟩, network, traffic.population, context⟩
      (queue.lined (vehicle :: behind)) (queue.accumulator - vehicle.pcu) false [] behind {} []
      [] :=
    Roads.serves_of_early fun head same => now ▸ early head same
  have carried : ¬queue.accumulator + Quantity.slack < vehicle.pcu := by
    rw [boarded.pcu]
    linarith
  have calls : traffic.roads.Calls ⟨⟨0⟩, network, traffic.population, context⟩ queue.accumulator
      false vehicle :=
    .foremost (boarded.exitTick.trans now.symm).le carried
  have moved := Roads.Serves.arrive calls (rides.ask boarded.agent _) later
  have link : (queue.lined (vehicle :: behind)).link = target := bare.link
  rw [boarded.agent, link] at moved
  rw [vehicles]
  exact moved

theorem serves_coming {first second : Vehicle Rat} {network : Network Rat} {room : Room Rat}
    (now : context.now = 1)
    (bare : squeeze.Bare queue source (squeeze.big.pcu + squeeze.small.pcu))
    (boarded : first.Boarded ⟨1⟩ squeeze.wide squeeze.big 1)
    (boarded' : second.Boarded ⟨2⟩ squeeze.narrow squeeze.small 1)
    (rides : Rides traffic.population ⟨1⟩ [source, target])
    (rides' : Rides traffic.population ⟨2⟩ [source, target])
    (seeps : traffic.roads.seeps squeeze.wide = true) (regular : room.regular = squeeze.spare)
    (seepage : squeeze.big.pcu ≤ room.seepage) :
    ∃ rooms', traffic.roads.Serves ⟨⟨1⟩, network, traffic.population, context⟩
      (queue.lined [first, second]) queue.accumulator false [(target, room)]
      (queue.lined [first, second]).vehicles
      { moves := [.transfer source ⟨1⟩ target, .transfer source ⟨2⟩ target] } [] rooms' := by
  have flow := bare.flows.brimful.trans_ge bare.flows.ceiling
  obtain ⟨big, small⟩ := sizes_pos squeeze
  have slack := Quantity.slack_pos
  have short := squeeze.short
  have vehicles : (queue.lined [first, second]).vehicles = [first, second] := by
    rw [LinkQueue.lined, bare.vehicles]
    rfl
  have link : (queue.lined [first, second]).link = source := bare.link
  have carried : ¬queue.accumulator + Quantity.slack < first.pcu := by
    rw [boarded.pcu]
    linarith
  have carried' : ¬queue.accumulator - first.pcu + Quantity.slack < second.pcu := by
    rw [boarded.pcu, boarded'.pcu]
    linarith
  -- The wide vehicle has to seep, so that the regular room is left to the narrow one.
  have taken : room.take? first.pcu (traffic.roads.seeps first.mode) =
      some (true, { room with seepage := room.seepage - first.pcu }) := by
    rw [boarded.pcu, boarded.mode, seeps]
    exact Room.take?_eq_some.mpr (.inr ⟨rfl, by linarith, rfl, by linarith, rfl⟩)
  obtain ⟨left, taken'⟩ : ∃ left, ({ room with
      seepage := room.seepage - first.pcu } : Room Rat).take? second.pcu
        (traffic.roads.seeps second.mode) = some (false, left) := by
    refine ⟨_, Room.take?_eq_some.mpr (.inl ⟨rfl, ?_, rfl⟩)⟩
    change second.pcu ≤ room.regular + Quantity.slack
    rw [boarded'.pcu, regular]
    exact squeeze.enough
  have free : List.lookup target ([(target, room)] : Rooms Rat) = some room := rfl
  have free' := Rooms.lookup_set_self free { room with seepage := room.seepage - first.pcu }
  have calls : traffic.roads.Calls ⟨⟨1⟩, network, traffic.population, context⟩ queue.accumulator
      false first :=
    .foremost (boarded.exitTick.trans now.symm).le carried
  have calls' : traffic.roads.Calls ⟨⟨1⟩, network, traffic.population, context⟩
      (queue.accumulator - first.pcu) false second :=
    .foremost (boarded'.exitTick.trans now.symm).le carried'
  have moved := Roads.Serves.transfer calls
    (rides.ask boarded.agent (queue.lined [first, second]).link) free taken
    (.transfer calls' (rides'.ask boarded'.agent _) free' taken' .done)
  rw [boarded.agent, boarded'.agent, link] at moved
  rw [vehicles]
  exact ⟨_, moved⟩

/-- In the second interval, one vehicle is to arrive and two are to take its place. -/
theorem Standing.orders (standing : squeeze.Standing traffic.roads traffic.population behind)
    (now : context.now = 1) (early : ∀ vehicle ∈ behind.head?, 1 < vehicle.exitTick)
    (sum : (behind.map (·.pcu)).sum = squeeze.fillers * squeeze.small.pcu) :
    ∃ decisions, World.decideAll squeeze.network context traffic = .ok decisions ∧
      decisions.flatMap (·.orders) = [.arrived ⟨0⟩ target, .transferred ⟨1⟩ source target,
        .transferred ⟨2⟩ source target] := by
  obtain ⟨inbound, seeps, ⟨queue, vehicle, bare, boarded, present⟩,
    ⟨queue', first, second, bare', boarded₁, boarded₂, present'⟩, rides₀, rides₁, rides₂⟩ :=
    standing
  obtain ⟨regular, seepage⟩ := bare.room boarded sum
  obtain ⟨rooms, coming⟩ := serves_coming now bare' boarded₁ boarded₂ rides₁ rides₂
    ((seeps _).mpr squeeze.seeps) regular seepage
  exact exists_decisions inbound present present' (serves_ahead now bare boarded rides₀ early)
    coming rfl rfl

theorem step_arrived {traffic' : Traffic Rat} {id : AgentId} {link : LinkId}
    {queue : LinkQueue Rat} {vehicle : Vehicle Rat}
    (step : Traffic.Step table context traffic (.arrived id link) traffic')
    (present : traffic.roads.queue? link = some queue)
    (aboard : queue.vehicles.find? (·.agent == id) = some vehicle) :
    traffic'.roads = traffic.roads.setQueue link (queue.releasing vehicle true) := by
  cases step with
  | arrived there found =>
      cases present.symm.trans there
      cases aboard.symm.trans found
      rfl

theorem step_transferred {traffic' : Traffic Rat} {id : AgentId} {link next : LinkId}
    {queue ahead : LinkQueue Rat} {vehicle : Vehicle Rat}
    (step : Traffic.Step table context traffic (.transferred id link next) traffic')
    (present : traffic.roads.queue? link = some queue)
    (aboard : queue.vehicles.find? (·.agent == id) = some vehicle)
    (apart : next ≠ link) (reached : traffic.roads.queue? next = some ahead) :
    ∃ seeping room,
      ahead.room.take? vehicle.pcu (traffic.roads.seeps vehicle.mode) = some (seeping, room) ∧
      traffic'.roads.queue? link = some (queue.releasing vehicle true) ∧
      traffic'.roads.queue? next =
        some (ahead.holding (ahead.stamped vehicle context.now seeping)) ∧
      traffic'.roads.seeps = traffic.roads.seeps := by
  cases step with
  | transferred there found kept taken =>
      cases present.symm.trans there
      cases aboard.symm.trans found
      have before := kept
      rw [Roads.queue?_setQueue present, if_neg apart] at before
      cases reached.symm.trans before
      refine ⟨_, _, taken, ?_, Roads.queue?_setQueue_self kept _, rfl⟩
      exact (Roads.queue?_setQueue kept _ link).trans
        ((if_neg apart.symm).trans (Roads.queue?_setQueue_self present _))

/-- These orders cannot be carried out. -/
theorem Standing.not_steps (standing : squeeze.Standing traffic.roads traffic.population behind)
    (sum : (behind.map (·.pcu)).sum = squeeze.fillers * squeeze.small.pcu) {final : Traffic Rat} :
    ¬Traffic.Steps table context traffic [.arrived ⟨0⟩ target, .transferred ⟨1⟩ source target,
      .transferred ⟨2⟩ source target] final := by
  intro steps
  obtain ⟨-, seeps, ⟨queue, vehicle, bare, boarded, present⟩,
    ⟨queue', first, second, bare', boarded₁, boarded₂, present'⟩, -⟩ := standing
  have regular := (bare.room boarded sum).1
  obtain ⟨big, small⟩ := sizes_pos squeeze
  have slack := Quantity.slack_pos
  have held : queue.occupied + ((vehicle :: behind).map (·.pcu)).sum =
      (squeeze.fillers + 1) * squeeze.small.pcu := by
    rw [bare.occupied, List.map_cons, List.sum_cons, sum, boarded.pcu]
    ring
  have freed : LinkQueue.release (queue.occupied + ((vehicle :: behind).map (·.pcu)).sum)
      vehicle.pcu = squeeze.fillers * squeeze.small.pcu := by
    rw [held, boarded.pcu, LinkQueue.release, Quantity.larger_eq_max]
    have kept : (0 : Rat) ≤ squeeze.fillers * squeeze.small.pcu :=
      mul_nonneg (Nat.cast_nonneg _) small.le
    rw [max_eq_left (by rw [Quantity.zero_eq]; linarith)]
    ring
  have apart : target ≠ source := by decide
  cases steps with
  | @cons _ traffic₁ _ _ _ arrived steps =>
  cases steps with
  | @cons _ traffic₂ _ _ _ transferred steps =>
  cases steps with
  | cons again steps =>
  -- The vehicle ahead makes room in the regular storage,
  have left := step_arrived arrived present (by
    rw [LinkQueue.lined, bare.vehicles]
    exact List.find?_cons_of_pos (by simp [boarded.agent]))
  generalize gone : (queue.lined (vehicle :: behind)).releasing vehicle true = ahead at left
  have room : ahead.room.regular = squeeze.spare + squeeze.small.pcu := by
    have storage : queue.storage - (squeeze.fillers + 1) * squeeze.small.pcu = squeeze.spare := by
      rw [← regular, ← held]
      rfl
    rw [← gone]
    change queue.storage - (if vehicle.seeping then _ else LinkQueue.release _ _) = _
    rw [boarded.regular, if_neg Bool.false_ne_true]
    change queue.storage - LinkQueue.release
      (queue.occupied + ((vehicle :: behind).map (·.pcu)).sum) vehicle.pcu = _
    rw [freed]
    linarith
  -- which the wide one takes,
  have loaded : traffic₁.roads.queue? source = some (queue'.lined [first, second]) := by
    rw [left, Roads.queue?_setQueue present, if_neg apart.symm, present']
  have open' : traffic₁.roads.queue? target = some ahead := by
    rw [left, Roads.queue?_setQueue_self present]
  have vehicles : (queue'.lined [first, second]).vehicles = [first, second] := by
    rw [LinkQueue.lined, bare'.vehicles]
    rfl
  obtain ⟨seeping, left', taken, queued, held', same⟩ := step_transferred transferred loaded (by
    rw [vehicles]
    exact List.find?_cons_of_pos (by simp [boarded₁.agent])) apart open'
  have regained := squeeze.regained
  obtain ⟨rfl, -, rfl⟩ | ⟨-, wide, -⟩ := Room.take?_eq_some.mp taken
  swap
  · rw [room, boarded₁.pcu] at wide
    linarith
  -- so that too little is left to the narrow one.
  obtain ⟨seeping, left', taken', -⟩ := step_transferred again queued (by
    change ((queue'.lined [first, second]).vehicles.eraseP _).find? _ = _
    rw [vehicles, List.eraseP_cons_of_pos (by simp)]
    exact List.find?_cons_of_pos (by simp [boarded₂.agent])) apart held'
  rw [LinkQueue.room_holding taken, same, boarded₂.pcu, boarded₂.mode] at taken'
  have short := squeeze.short
  obtain ⟨-, fits, -⟩ | ⟨-, -, may, -⟩ := Room.take?_eq_some.mp taken'
  · change squeeze.small.pcu ≤ ahead.room.regular - first.pcu + Quantity.slack at fits
    rw [room, boarded₁.pcu] at fits
    linarith
  · rw [left] at may
    exact squeeze.stays ((seeps _).mp may)

end Decisions

end Squeeze

end MixedTraffic

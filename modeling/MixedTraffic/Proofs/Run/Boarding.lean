import MixedTraffic.Proofs.Road.Storage
import MixedTraffic.Proofs.Run.Course

namespace MixedTraffic

/-! Agents that find enough room on a link that is first in, first out line up on it. -/

namespace LinkQueue

variable {queue : LinkQueue Rat} {vehicle : Vehicle Rat}

/-- The queue with more vehicles at its end, all of them in the regular storage. -/
def lined (queue : LinkQueue Rat) (vehicles : List (Vehicle Rat)) : LinkQueue Rat :=
  { queue with
    vehicles := queue.vehicles ++ vehicles
    nextSeq := queue.nextSeq + vehicles.length
    occupied := queue.occupied + (vehicles.map (·.pcu)).sum }

theorem lined_nil (queue : LinkQueue Rat) : queue.lined [] = queue := by
  simp [lined]

theorem lined_lined (queue : LinkQueue Rat) (first second : List (Vehicle Rat)) :
    (queue.lined first).lined second = queue.lined (first ++ second) := by
  simp [lined, List.append_assoc, add_assoc]

theorem holding_eq_lined (fifo : queue.passing = false) (regular : vehicle.seeping = false) :
    queue.holding vehicle = queue.lined [vehicle] := by
  simp [holding, lined, place, fifo, regular]

theorem room_lined (queue : LinkQueue Rat) (vehicles : List (Vehicle Rat)) :
    (queue.lined vehicles).room =
      { queue.room with regular := queue.room.regular - (vehicles.map (·.pcu)).sum } := by
  simp [room, lined, sub_add_eq_sub_sub]

end LinkQueue

namespace Roads

variable {roads : Roads Rat} {link : LinkId} {queue : LinkQueue Rat}

theorem setQueue_setQueue (roads : Roads Rat) (link : LinkId) (first second : LinkQueue Rat) :
    (roads.setQueue link first).setQueue link second = roads.setQueue link second := by
  simp [setQueue]

end Roads

structure Vehicle.Boarded (vehicle : Vehicle Rat) (id : AgentId) (mode : ModeId)
    (type : VehicleType Rat) (exitTick : Tick) : Prop where
  agent : vehicle.agent = id
  mode : vehicle.mode = mode
  pcu : vehicle.pcu = type.pcu
  exitTick : vehicle.exitTick = exitTick
  regular : vehicle.seeping = false

theorem Vehicle.sum_pcu_of_boarded {ids : List AgentId} {vehicles : List (Vehicle Rat)}
    {mode : ModeId} {type : VehicleType Rat} {exitTick : Tick}
    (boarded : List.Forall₂ (fun id vehicle => Boarded vehicle id mode type exitTick) ids
      vehicles) :
    (vehicles.map (·.pcu)).sum = ids.length * type.pcu := by
  induction boarded with
  | nil => simp
  | cons first _ ih =>
      rw [List.map_cons, List.sum_cons, ih, first.pcu, List.length_cons, Nat.cast_add,
        Nat.cast_one, add_one_mul, add_comm]

/-- An agent of a mode that is to begin its trip on a link. -/
structure Agent.Awaits (agent : Agent) (context : RouteContext) (id : AgentId) (mode : ModeId)
    (link : LinkId) : Prop where
  mode : agent.mode = mode
  trip : agent.trip = {}
  departs : agent.driver.departs context = true
  first : agent.driver.firstLink? id context = some link

namespace Traffic

variable {table : ModeTable Rat} {context : RouteContext} {traffic : Traffic Rat}
  {link : LinkId} {queue : LinkQueue Rat} {mode : ModeId} {type : VehicleType Rat}

theorem exists_boarding_one {id : AgentId} {agent : Agent}
    (present : traffic.roads.queue? link = some queue) (fifo : queue.passing = false)
    (listed : table.get? mode = some type)
    (found : traffic.population.get? id = some agent)
    (awaits : agent.Awaits context id mode link)
    (room : type.pcu ≤ queue.room.regular + Quantity.slack) :
    ∃ vehicle traffic', Step table context traffic (.departed id link) traffic' ∧
      vehicle.Boarded id mode type (context.now + queue.travelTicks type.maxSpeed) ∧
      traffic'.roads = traffic.roads.setQueue link (queue.lined [vehicle]) ∧
      traffic'.population =
        traffic.population.set id { agent with trip := ⟨.moving link 0, none⟩ } := by
  obtain ⟨own, fresh, departs, first⟩ := awaits
  obtain ⟨rider, built, riding, typed, size, speed⟩ : ∃ rider,
      Vehicle.new? table id agent.mode = some rider ∧ rider.agent = id ∧ rider.mode = mode ∧
        rider.pcu = type.pcu ∧ rider.maxSpeed = type.maxSpeed :=
    ⟨_, Vehicle.new?_eq_some.mpr ⟨type, own ▸ listed, rfl⟩, rfl, own, rfl, rfl⟩
  have waits : agent.trip.act? (.wait context.now) = some ⟨.waiting context.now, none⟩ := by
    rw [fresh]
    rfl
  have taken : queue.room.take? rider.pcu (traffic.roads.seeps agent.mode) = some (false, _) :=
    Room.take?_eq_some.mpr (.inl ⟨rfl, size ▸ room, rfl⟩)
  have step : Step table context traffic (.departed id link) _ :=
    .departed found departs first waits present built taken rfl (LinkQueue.dates_rat ..)
  refine ⟨queue.stamped rider context.now false, _, step,
    ⟨riding, typed, size, speed ▸ rfl, rfl⟩, ?_, rfl⟩
  rw [← LinkQueue.holding_eq_lined fifo rfl]
  rfl

/-- Any number of agents of one mode line up where there is room for all of them. -/
theorem exists_boarding {ids : List AgentId}
    (present : traffic.roads.queue? link = some queue) (fifo : queue.passing = false)
    (listed : table.get? mode = some type)
    (await : ∀ id ∈ ids, ∃ agent, traffic.population.get? id = some agent ∧
      agent.Awaits context id mode link)
    (distinct : ids.Nodup)
    (room : type.pcu * ids.length ≤ queue.room.regular + Quantity.slack) :
    ∃ vehicles traffic',
      Steps table context traffic (ids.map fun id => .departed id link) traffic' ∧
      List.Forall₂ (fun (id : AgentId) (vehicle : Vehicle Rat) => vehicle.Boarded id mode type
        (context.now + queue.travelTicks type.maxSpeed)) ids vehicles ∧
      traffic'.roads = traffic.roads.setQueue link (queue.lined vehicles) ∧
      ∀ id, traffic'.population.get? id = (traffic.population.get? id).map fun agent =>
        if id ∈ ids then { agent with trip := ⟨.moving link 0, none⟩ } else agent := by
  induction ids generalizing traffic queue with
  | nil =>
      refine ⟨[], traffic, .nil, .nil, ?_, fun id => by simp⟩
      rw [LinkQueue.lined_nil, Roads.setQueue_self present]
  | cons id rest ih =>
      obtain ⟨fresh, distinct⟩ := List.nodup_cons.mp distinct
      obtain ⟨⟨agent, found, awaits⟩, others⟩ := List.forall_mem_cons.mp await
      have positive := (ModeTable.positive listed).1
      have length : (0 : Rat) ≤ rest.length := Nat.cast_nonneg _
      rw [List.length_cons, Nat.cast_add, Nat.cast_one, mul_add, mul_one] at room
      obtain ⟨vehicle, middle, step, boarded, roads, population⟩ :=
        exists_boarding_one present fifo listed found awaits (by nlinarith)
      obtain ⟨vehicles, traffic', steps, all, roads', population'⟩ :=
        @ih middle (queue.lined [vehicle]) (by
          rw [roads]
          exact Roads.queue?_setQueue_self present _) fifo (by
          intro other later
          obtain ⟨member, found', awaits⟩ := others other later
          refine ⟨member, ?_, awaits⟩
          rw [population, Population.get?_set found, if_neg, found']
          intro same
          exact fresh (same ▸ later)) distinct (by
          rw [LinkQueue.room_lined]
          simp only [List.map_cons, List.map_nil, List.sum_cons, List.sum_nil, boarded.pcu]
          linarith)
      refine ⟨vehicle :: vehicles, traffic', .cons step steps, .cons boarded all, ?_, ?_⟩
      · rw [roads', roads, Roads.setQueue_setQueue, LinkQueue.lined_lined]
        rfl
      · intro other
        rw [population', population, Population.get?_set found]
        by_cases same : other = id
        · simp [same, found, fresh]
        · simp [same]

end Traffic

end MixedTraffic

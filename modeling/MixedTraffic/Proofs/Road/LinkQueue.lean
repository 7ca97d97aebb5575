import MixedTraffic.Proofs.Attempt
import MixedTraffic.Road.LinkQueue

namespace MixedTraffic

variable {α : Type}

theorem LinkQueue.place_perm (queue : LinkQueue α) (vehicle : Vehicle α) :
    (queue.place vehicle).Perm (vehicle :: queue.vehicles) := by
  unfold place
  split
  · have split := List.takeWhile_append_dropWhile
      (p := (·.isAhead vehicle)) (l := queue.vehicles)
    calc
      _ = queue.vehicles.takeWhile (·.isAhead vehicle) ++
          vehicle :: queue.vehicles.dropWhile (·.isAhead vehicle) := rfl
      List.Perm _ (vehicle :: (queue.vehicles.takeWhile (·.isAhead vehicle) ++
          queue.vehicles.dropWhile (·.isAhead vehicle))) := List.perm_middle
      _ = vehicle :: queue.vehicles := by rw [split]
  · exact List.perm_append_comm

variable [Quantity α]

namespace Vehicle

/-- That a vehicle is as large and as fast as its mode says. -/
def IsOf (table : ModeTable α) (vehicle : Vehicle α) : Prop :=
  ∃ type, table.get? vehicle.mode = some type ∧
    vehicle.pcu = type.pcu ∧ vehicle.maxSpeed = type.maxSpeed

variable {table : ModeTable α} {id : AgentId} {mode : ModeId} {vehicle : Vehicle α}

theorem new?_eq_some :
    new? table id mode = some vehicle ↔
      ∃ type, table.get? mode = some type ∧
        vehicle = { agent := id, mode, pcu := type.pcu, maxSpeed := type.maxSpeed } := by
  simp only [new?, Option.map_eq_some_iff]
  exact exists_congr fun type => and_congr_right fun _ => eq_comm

theorem agent_of_new? (built : new? table id mode = some vehicle) : vehicle.agent = id := by
  obtain ⟨type, -, rfl⟩ := new?_eq_some.mp built
  rfl

theorem mode_of_new? (built : new? table id mode = some vehicle) : vehicle.mode = mode := by
  obtain ⟨type, -, rfl⟩ := new?_eq_some.mp built
  rfl

theorem isOf_of_new? (built : new? table id mode = some vehicle) : vehicle.IsOf table := by
  obtain ⟨type, listed, rfl⟩ := new?_eq_some.mp built
  exact ⟨type, listed, rfl, rfl⟩

end Vehicle

namespace RoadError

/-- That something stopped at an interval that is beyond all counting. -/
def Uncounted (cause : RoadError α) : Prop :=
  ∃ tick, cause = .noSuchTick tick ∧ Quantity.countsTo (α := α) tick = false

theorem not_uncounted_rat (cause : RoadError Rat) : ¬cause.Uncounted := by
  rintro ⟨tick, -, ⟨⟩⟩

end RoadError

namespace LinkQueue

/-! Admission and removal in closed form. `stamped` is a vehicle as the link records it,
`holding` the link with such a vehicle on it, `releasing` the link without it. -/

def stamped (queue : LinkQueue α) (vehicle : Vehicle α) (now : Tick) (seeping : Bool) :
    Vehicle α :=
  { vehicle with
    entered := now
    exitTick := now + queue.travelTicks vehicle.maxSpeed
    seeping
    seq := queue.nextSeq }

def holding (queue : LinkQueue α) (vehicle : Vehicle α) : LinkQueue α :=
  { queue with
    vehicles := queue.place vehicle
    nextSeq := queue.nextSeq + 1
    occupied := if vehicle.seeping then queue.occupied else queue.occupied + vehicle.pcu
    seepOccupied :=
      if vehicle.seeping then queue.seepOccupied + vehicle.pcu else queue.seepOccupied }

def releasing (queue : LinkQueue α) (vehicle : Vehicle α) (movesOn : Bool) : LinkQueue α :=
  { queue with
    vehicles := queue.vehicles.eraseP (·.agent == vehicle.agent)
    occupied :=
      if vehicle.seeping then queue.occupied else release queue.occupied vehicle.pcu
    seepOccupied :=
      if vehicle.seeping then release queue.seepOccupied vehicle.pcu
      else queue.seepOccupied
    accumulator :=
      if movesOn then queue.accumulator - vehicle.pcu else queue.accumulator
    discharged := if movesOn then queue.discharged + vehicle.pcu else queue.discharged
    blocked :=
      if (queue.blockedSince? vehicle.agent).isSome then none else queue.blocked }

section Stamped

variable (queue : LinkQueue α) (vehicle : Vehicle α) (now : Tick) (seeping : Bool)

@[simp] theorem stamped_agent : (queue.stamped vehicle now seeping).agent = vehicle.agent :=
  rfl

@[simp] theorem stamped_pcu : (queue.stamped vehicle now seeping).pcu = vehicle.pcu := rfl

@[simp] theorem stamped_seeping : (queue.stamped vehicle now seeping).seeping = seeping := rfl

end Stamped

/-- That the counters go as far as the interval in which a vehicle may leave. -/
def Dates (queue : LinkQueue α) (vehicle : Vehicle α) (now : Tick) : Prop :=
  (now.after? α (queue.travelTicks vehicle.maxSpeed)).isSome

theorem not_dates {queue : LinkQueue α} {vehicle : Vehicle α} {now : Tick} :
    ¬queue.Dates vehicle now ↔
      Quantity.countsTo (α := α) (now + queue.travelTicks vehicle.maxSpeed) = false := by
  rw [Dates, Option.not_isSome_iff_eq_none, Tick.after?_eq_none]

theorem dates_rat (queue : LinkQueue Rat) (vehicle : Vehicle Rat) (now : Tick) :
    queue.Dates vehicle now := rfl

@[simp] theorem travelTicks_charge (queue : LinkQueue α) (seeping : Bool) (pcu maxSpeed : α) :
    (queue.charge seeping pcu).travelTicks maxSpeed = queue.travelTicks maxSpeed := by
  cases seeping <;> rfl

theorem accept_eq_ok {queue queue' : LinkQueue α} {vehicle : Vehicle α} {now exitTick : Tick}
    {maySeep : Bool} :
    queue.accept vehicle now maySeep = .ok (exitTick, queue') ↔
      ∃ seeping room,
        queue.room.take? vehicle.pcu maySeep = some (seeping, room) ∧
        queue.Dates vehicle now ∧
        exitTick = now + queue.travelTicks vehicle.maxSpeed ∧
        queue' = queue.holding (queue.stamped vehicle now seeping) := by
  unfold accept Dates
  cases taken : queue.room.take? vehicle.pcu maySeep with
  | none => simp
  | some answer =>
      obtain ⟨seeping, room⟩ := answer
      simp only [travelTicks_charge]
      cases leaves : now.after? α (queue.travelTicks vehicle.maxSpeed) with
      | none => simp
      | some tick =>
          obtain ⟨-, rfl⟩ := Tick.after?_eq_some.mp leaves
          constructor
          · intro accepted
            cases accepted
            exact ⟨seeping, room, rfl, rfl, rfl, by cases seeping <;> rfl⟩
          · rintro ⟨_, _, same, -, rfl, rfl⟩
            cases same
            cases seeping <;> rfl

/-- A vehicle is refused for want of room, which leaves the link as it is. One that would leave
beyond all counting has taken up its room before it fails. -/
theorem accept_eq_error {queue : LinkQueue α} {vehicle : Vehicle α} {now : Tick}
    {maySeep : Bool} {stopped : Interrupted (RoadError α) (LinkQueue α)} :
    queue.accept vehicle now maySeep = .error stopped ↔
      (queue.room.take? vehicle.pcu maySeep = none ∧
        stopped = ⟨.capacityExceeded queue.link vehicle.pcu queue.room.regular, queue⟩) ∨
      ∃ seeping room,
        queue.room.take? vehicle.pcu maySeep = some (seeping, room) ∧
        ¬queue.Dates vehicle now ∧
        stopped = ⟨.noSuchTick (now + queue.travelTicks vehicle.maxSpeed),
          queue.charge seeping vehicle.pcu⟩ := by
  unfold accept Dates
  cases taken : queue.room.take? vehicle.pcu maySeep with
  | none =>
      constructor
      · rintro ⟨⟩
        exact .inl ⟨rfl, rfl⟩
      · rintro (⟨-, rfl⟩ | ⟨_, _, absurd, -⟩)
        · rfl
        · cases absurd
  | some answer =>
      obtain ⟨seeping, room⟩ := answer
      simp only [travelTicks_charge]
      cases leaves : now.after? α (queue.travelTicks vehicle.maxSpeed) with
      | none =>
          simp only [Except.error.injEq, reduceCtorEq, false_and, false_or, Option.some.injEq,
            Prod.mk.injEq, Option.isSome_none, Bool.false_eq_true, not_false_eq_true, true_and]
          constructor
          · rintro rfl
            exact ⟨_, _, ⟨rfl, rfl⟩, rfl⟩
          · rintro ⟨_, _, ⟨rfl, rfl⟩, rfl⟩
            rfl
      | some tick => simp

theorem take_of_find? {queue : LinkQueue α} {vehicle : Vehicle α} {agent : AgentId}
    (found : queue.vehicles.find? (·.agent == agent) = some vehicle) (movesOn : Bool) :
    queue.take agent movesOn = .ok (vehicle, queue.releasing vehicle movesOn) := by
  have named : vehicle.agent = agent := by simpa using List.find?_some found
  subst named
  unfold take
  rw [found]
  cases seeps : vehicle.seeping <;> cases movesOn <;>
    simp only [releasing, seeps, if_true, if_false, Bool.false_eq_true, Except.ok.injEq,
      Prod.mk.injEq, true_and] <;>
    by_cases recorded : (queue.blockedSince? vehicle.agent).isSome = true <;>
    simp only [blockedSince?] at recorded ⊢ <;> simp only [recorded] <;> rfl

theorem take_eq_ok {queue queue' : LinkQueue α} {vehicle : Vehicle α} {agent : AgentId}
    {movesOn : Bool} :
    queue.take agent movesOn = .ok (vehicle, queue') ↔
      queue.vehicles.find? (·.agent == agent) = some vehicle ∧
        queue' = queue.releasing vehicle movesOn := by
  cases found : queue.vehicles.find? (·.agent == agent) with
  | none => simp [take, found]
  | some first =>
      rw [take_of_find? found]
      simp only [Except.ok.injEq, Prod.mk.injEq, Option.some.injEq]
      constructor
      · rintro ⟨rfl, rfl⟩
        exact ⟨rfl, rfl⟩
      · rintro ⟨rfl, rfl⟩
        exact ⟨rfl, rfl⟩

theorem holding_perm (queue : LinkQueue α) (vehicle : Vehicle α) :
    (queue.holding vehicle).vehicles.Perm (vehicle :: queue.vehicles) :=
  queue.place_perm vehicle

theorem vehicles_releasing {queue : LinkQueue α} {vehicle : Vehicle α}
    {ahead behind : List (Vehicle α)} (split : queue.vehicles = ahead ++ vehicle :: behind)
    (first : ∀ other ∈ ahead, other.agent ≠ vehicle.agent) (movesOn : Bool) :
    (queue.releasing vehicle movesOn).vehicles = ahead ++ behind := by
  have others : ∀ other ∈ ahead, ¬(other.agent == vehicle.agent) = true := by
    simpa using first
  change queue.vehicles.eraseP _ = _
  rw [split, List.eraseP_append_right _ others, List.eraseP_cons_of_pos (by simp)]

theorem releasing_perm {queue : LinkQueue α} {vehicle : Vehicle α} {agent : AgentId}
    (found : queue.vehicles.find? (·.agent == agent) = some vehicle) (movesOn : Bool) :
    queue.vehicles.Perm (vehicle :: (queue.releasing vehicle movesOn).vehicles) := by
  have named : vehicle.agent = agent := by simpa using List.find?_some found
  subst named
  obtain ⟨_, ahead, behind, split, others⟩ := List.find?_eq_some_iff_append.mp found
  rw [vehicles_releasing split (by simpa using others), split]
  exact List.perm_middle

end LinkQueue

end MixedTraffic

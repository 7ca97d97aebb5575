import MixedTraffic.Proofs.Lists
import MixedTraffic.Proofs.Road.Line
import MixedTraffic.Proofs.Road.Storage

namespace MixedTraffic

variable {α : Type}

/-! What becomes of the queue of a link, whatever is done with it. A ledger keeps account of the
vehicles that came and of those that were taken off; their admission numbers tell them apart. -/

namespace LinkQueue

theorem exists_markBlocked (queue : LinkQueue α) (agent : AgentId) (now : Tick) :
    ∃ blocked, queue.markBlocked agent now = { queue with blocked } := by
  unfold markBlocked
  split
  next => exact ⟨queue.blocked, rfl⟩
  next => exact ⟨some (agent, now), rfl⟩

theorem exists_place (queue : LinkQueue α) (vehicle : Vehicle α) :
    ∃ ahead behind, queue.vehicles = ahead ++ behind ∧
      queue.place vehicle = ahead ++ vehicle :: behind := by
  unfold place
  split
  · exact ⟨_, _, List.takeWhile_append_dropWhile.symm, rfl⟩
  · exact ⟨queue.vehicles, [], (List.append_nil _).symm, rfl⟩

namespace Ordered

variable {queue : LinkQueue α} (ordered : queue.Ordered) (passing : queue.passing = true)
include ordered passing

/-- Where passing is allowed, the vehicles that are ready at a tick lead the queue. -/
theorem takeWhile_ready (tick : Tick) :
    (queue.vehicles.takeWhile fun vehicle => decide (vehicle.exitTick ≤ tick)) =
      queue.vehicles.filter fun vehicle => decide (vehicle.exitTick ≤ tick) := by
  apply takeWhile_eq_filter
  apply ordered.sorted.imp
  intro vehicle later ahead
  rw [Ahead, if_pos passing] at ahead
  simp only [decide_eq_true_eq]
  intro ready
  rcases ahead with earlier | ⟨same, -⟩
  · exact earlier.le.trans ready
  · exact same.le.trans ready

/-- Those ahead of a newcomer lead the queue, so that its place can be found by bisection. -/
theorem takeWhile_isAhead (newcomer : Vehicle α) :
    queue.vehicles.takeWhile (·.isAhead newcomer) =
      queue.vehicles.filter (·.isAhead newcomer) := by
  apply takeWhile_eq_filter
  apply ordered.sorted.imp
  intro vehicle later ahead
  rw [Ahead, if_pos passing] at ahead
  simp only [Vehicle.isAhead, decide_eq_true_eq]
  rintro (sooner | ⟨even, numbered⟩)
  · rcases ahead with earlier | ⟨same, -⟩
    · exact .inl (earlier.trans sooner)
    · exact .inl (same.trans_lt sooner)
  · rcases ahead with earlier | ⟨same, first⟩
    · exact .inl (earlier.trans_eq even)
    · exact .inr ⟨same.trans even, first.le.trans numbered⟩

end Ordered

end LinkQueue

/-- A vehicle that was admitted to a link, as it was handed over, and what was answered. -/
structure Admission (α : Type) where
  vehicle : Vehicle α
  entered : Tick
  exitTick : Tick

/-- That a vehicle is the one that was admitted, with the exit that was answered. -/
structure Admission.Stands (admission : Admission α) (vehicle : Vehicle α) : Prop where
  later : admission.entered < admission.exitTick
  same : vehicle =
    { admission.vehicle with
      entered := admission.entered
      exitTick := admission.exitTick
      seeping := vehicle.seeping
      seq := vehicle.seq }

/-- The queue of a link with an account of who came and of whom was asked for and taken off, in
this order. -/
structure Ledger (α : Type) where
  queue : LinkQueue α
  admitted : List (Admission α) := []
  taken : List (AgentId × Vehicle α) := []

namespace Ledger

def known (ledger : Ledger α) : List (Vehicle α) :=
  ledger.queue.vehicles ++ ledger.taken.map (·.2)

/-- That a ledger is in balance: the vehicles are in order on the link, and each that came is
there or was taken off, under its number among all that came. -/
structure Balances (ledger : Ledger α) : Prop where
  ordered : ledger.queue.Ordered
  counted : ledger.admitted.length = ledger.queue.nextSeq
  numbers : (ledger.known.map (·.seq)).Perm (List.range ledger.queue.nextSeq)
  stands : ∀ vehicle ∈ ledger.known, ∃ admission,
    ledger.admitted[vehicle.seq]? = some admission ∧ admission.Stands vehicle
  asked : ∀ entry ∈ ledger.taken, entry.2.agent = entry.1

/-- What is known of a link at any time. -/
structure Tells (ledger : Ledger α) (passing : Bool) : Prop where
  numbered : ∀ vehicle ∈ ledger.queue.vehicles, vehicle.seq < ledger.queue.nextSeq
  distinct : (ledger.queue.vehicles.map (·.seq)).Nodup
  fifo : passing = false → ledger.queue.vehicles.Pairwise (·.seq < ·.seq)
  byExit : passing = true → ledger.queue.vehicles.Pairwise fun vehicle later =>
    vehicle.exitTick < later.exitTick ∨
      vehicle.exitTick = later.exitTick ∧ vehicle.seq < later.seq
  ready : passing = true → ∀ tick,
    (ledger.queue.vehicles.takeWhile fun vehicle => decide (vehicle.exitTick ≤ tick)) =
      ledger.queue.vehicles.filter fun vehicle => decide (vehicle.exitTick ≤ tick)
  bisected : passing = true → ∀ newcomer : Vehicle α,
    ledger.queue.vehicles.takeWhile (·.isAhead newcomer) =
      ledger.queue.vehicles.filter (·.isAhead newcomer)
  counted : ledger.admitted.length = ledger.queue.nextSeq
  numbers : ((ledger.queue.vehicles ++ ledger.taken.map (·.2)).map (·.seq)).Perm
    (List.range ledger.queue.nextSeq)
  present : ∀ number, number ∈ ledger.queue.vehicles.map (·.seq) ↔
    number < ledger.admitted.length ∧ number ∉ ledger.taken.map (·.2.seq)
  stands : ∀ vehicle ∈ ledger.queue.vehicles ++ ledger.taken.map (·.2), ∃ admission,
    ledger.admitted[vehicle.seq]? = some admission ∧ admission.Stands vehicle
  asked : ∀ entry ∈ ledger.taken, entry.2.agent = entry.1

namespace Balances

theorem of_empty {queue : LinkQueue α} (empty : queue.vehicles = [])
    (unnumbered : queue.nextSeq = 0) : Balances { queue } := by
  constructor
  · exact .of_empty empty
  · exact unnumbered.symm
  · simp [known, empty, unnumbered]
  · simp [known, empty]
  · exact List.forall_mem_nil _

variable {ledger : Ledger α} (balances : ledger.Balances)
include balances

/-- What neither moves nor numbers a vehicle changes nothing in the accounts. -/
theorem of_queue {queue : LinkQueue α} (vehicles : queue.vehicles = ledger.queue.vehicles)
    (nextSeq : queue.nextSeq = ledger.queue.nextSeq)
    (passing : queue.passing = ledger.queue.passing) : Balances { ledger with queue } := by
  have known : Ledger.known { ledger with queue } = ledger.known :=
    congrArg (· ++ ledger.taken.map (·.2)) vehicles
  constructor
  · constructor
    · rw [vehicles]
      exact balances.ordered.sorted.imp (LinkQueue.Ahead.congr passing).mpr
    · rw [vehicles, nextSeq]
      exact balances.ordered.numbered
  · rw [nextSeq]
    exact balances.counted
  · rw [known, nextSeq]
    exact balances.numbers
  · rw [known]
    exact balances.stands
  · exact balances.asked

theorem nodup : (ledger.known.map (·.seq)).Nodup :=
  balances.numbers.nodup_iff.mpr List.nodup_range

theorem present (number : Nat) : number ∈ ledger.queue.vehicles.map (·.seq) ↔
    number < ledger.admitted.length ∧ number ∉ ledger.taken.map (·.2.seq) := by
  have member := balances.numbers.mem_iff (a := number)
  have apart := balances.nodup
  rw [known, List.map_append, List.map_map] at member apart
  rw [List.mem_append, List.mem_range, ← balances.counted] at member
  constructor
  · intro there
    exact ⟨member.mp (.inl there), (List.nodup_append'.mp apart).2.2 there⟩
  · rintro ⟨admitted, left⟩
    exact (member.mpr admitted).resolve_right left

theorem tells : ledger.Tells ledger.queue.passing where
  numbered := balances.ordered.numbered
  distinct := by
    have apart := balances.nodup
    rw [known, List.map_append] at apart
    exact (List.nodup_append'.mp apart).1
  fifo fifo := by
    apply balances.ordered.sorted.imp
    intro vehicle later ahead
    rwa [LinkQueue.Ahead, fifo, if_neg Bool.false_ne_true] at ahead
  byExit passing := by
    apply balances.ordered.sorted.imp
    intro vehicle later ahead
    rwa [LinkQueue.Ahead, if_pos passing] at ahead
  ready := balances.ordered.takeWhile_ready
  bisected := balances.ordered.takeWhile_isAhead
  counted := balances.counted
  numbers := balances.numbers
  present := balances.present
  stands := balances.stands
  asked := balances.asked

end Balances

end Ledger

variable [Quantity α]

namespace LinkQueue

/-- What is done with the queue of a link. -/
inductive Use (α : Type) [Quantity α] where
  | accept (vehicle : Vehicle α) (now : Tick) (maySeep : Bool)
  | take (agent : AgentId) (movesOn : Bool)
  | refill
  | refresh (link : Link α) (table : ModeTable α)
  | markBlocked (agent : AgentId) (now : Tick)

section Answers

variable {queue : LinkQueue α} {vehicle : Vehicle α} {now : Tick} {maySeep : Bool}
  {agent : AgentId} {movesOn : Bool}

theorem lt_exitTick_stamped (queue : LinkQueue α) (vehicle : Vehicle α) (now : Tick)
    (seeping : Bool) : now < (queue.stamped vehicle now seeping).exitTick :=
  Nat.lt_add_of_pos_right (Nat.lt_of_lt_of_le Nat.zero_lt_one (Nat.le_max_right ..))

theorem stands_stamped (queue : LinkQueue α) (vehicle : Vehicle α) (now : Tick)
    (seeping : Bool) :
    Admission.Stands ⟨vehicle, now, now + queue.travelTicks vehicle.maxSpeed⟩
      (queue.stamped vehicle now seeping) :=
  ⟨queue.lt_exitTick_stamped vehicle now seeping, rfl⟩

/-- A vehicle that is not admitted is not on the link, though it may have been given room. -/
theorem exists_of_accept_error {stopped : Interrupted (RoadError α) (LinkQueue α)}
    (failed : queue.accept vehicle now maySeep = .error stopped) :
    ∃ occupied seepOccupied, stopped.reached = { queue with occupied, seepOccupied } := by
  rcases accept_eq_error.mp failed with ⟨-, rfl⟩ | ⟨seeping, room, -, -, rfl⟩
  · exact ⟨queue.occupied, queue.seepOccupied, rfl⟩
  · cases seeping with
    | false => exact ⟨queue.occupied + vehicle.pcu, queue.seepOccupied, rfl⟩
    | true => exact ⟨queue.occupied, queue.seepOccupied + vehicle.pcu, rfl⟩

theorem take_eq_error {stopped : Interrupted (RoadError α) (LinkQueue α)} :
    queue.take agent movesOn = .error stopped ↔
      (∀ vehicle ∈ queue.vehicles, vehicle.agent ≠ agent) ∧
        stopped = ⟨.vehicleMissing queue.link agent, queue⟩ := by
  have absent : queue.vehicles.find? (·.agent == agent) = none ↔
      ∀ vehicle ∈ queue.vehicles, vehicle.agent ≠ agent := by
    simp
  rw [← absent]
  cases found : queue.vehicles.find? (·.agent == agent) with
  | none =>
      unfold take
      rw [found]
      simp [eq_comm]
  | some vehicle =>
      rw [take_of_find? found]
      simp

end Answers

/-- That a link has room for a vehicle, in the pool for seeping modes only if it may seep. -/
def Fits (queue : LinkQueue α) (vehicle : Vehicle α) (maySeep : Bool) : Prop :=
  vehicle.pcu ≤ queue.storage - queue.occupied + Quantity.slack ∨
    maySeep = true ∧ vehicle.pcu ≤ queue.seepStorage - queue.seepOccupied + Quantity.slack

theorem not_fits {queue : LinkQueue α} {vehicle : Vehicle α} {maySeep : Bool} :
    ¬queue.Fits vehicle maySeep ↔ queue.room.take? vehicle.pcu maySeep = none := by
  rw [Room.take?_eq_none, Fits, not_or, not_and]
  rfl

/-- What a link answers. Whoever fits comes, unless it would leave beyond all counting, and
whoever is there can be taken off. A refusal changes nothing. -/
structure Responds (queue : LinkQueue α) : Prop where
  enters : ∀ vehicle now maySeep, queue.Fits vehicle maySeep → queue.Dates vehicle now →
    ∃ queue' newcomer ahead behind,
      queue.accept vehicle now maySeep =
        .ok (now + queue.travelTicks vehicle.maxSpeed, queue') ∧
      queue.vehicles = ahead ++ behind ∧ queue'.vehicles = ahead ++ newcomer :: behind ∧
      newcomer.seq = queue.nextSeq ∧
      Admission.Stands ⟨vehicle, now, now + queue.travelTicks vehicle.maxSpeed⟩ newcomer
  full : ∀ vehicle now maySeep, ¬queue.Fits vehicle maySeep →
    queue.accept vehicle now maySeep = .error
      ⟨.capacityExceeded queue.link vehicle.pcu (queue.storage - queue.occupied), queue⟩
  endless : ∀ vehicle now maySeep, queue.Fits vehicle maySeep → ¬queue.Dates vehicle now →
    ∃ stopped, queue.accept vehicle now maySeep = .error stopped ∧ stopped.cause.Uncounted
  refused : ∀ vehicle now maySeep stopped, queue.accept vehicle now maySeep = .error stopped →
    stopped.reached = queue ∨ stopped.cause.Uncounted
  leaves : ∀ ahead vehicle behind movesOn, queue.vehicles = ahead ++ vehicle :: behind →
    (∀ other ∈ ahead, other.agent ≠ vehicle.agent) →
      ∃ queue', queue.take vehicle.agent movesOn = .ok (vehicle, queue') ∧
        queue'.vehicles = ahead ++ behind
  absent : ∀ agent movesOn, (∀ vehicle ∈ queue.vehicles, vehicle.agent ≠ agent) →
    queue.take agent movesOn = .error ⟨.vehicleMissing queue.link agent, queue⟩
  missed : ∀ agent movesOn stopped, queue.take agent movesOn = .error stopped →
    stopped.reached = queue

theorem exists_room {queue : LinkQueue α} {vehicle : Vehicle α} {maySeep : Bool}
    (fits : queue.Fits vehicle maySeep) :
    ∃ seeping room, queue.room.take? vehicle.pcu maySeep = some (seeping, room) := by
  obtain ⟨⟨seeping, room⟩, taken⟩ :=
    Option.ne_none_iff_exists'.mp fun full => not_fits.mpr full fits
  exact ⟨seeping, room, taken⟩

theorem responds (queue : LinkQueue α) : queue.Responds where
  enters vehicle now maySeep fits dates := by
    obtain ⟨seeping, room, taken⟩ := exists_room fits
    obtain ⟨ahead, behind, split, placed⟩ :=
      queue.exists_place (queue.stamped vehicle now seeping)
    exact ⟨_, _, ahead, behind, accept_eq_ok.mpr ⟨seeping, room, taken, dates, rfl, rfl⟩,
      split, placed, rfl, queue.stands_stamped vehicle now seeping⟩
  full vehicle now maySeep full := accept_eq_error.mpr (.inl ⟨not_fits.mp full, rfl⟩)
  endless vehicle now maySeep fits late := by
    obtain ⟨seeping, room, taken⟩ := exists_room fits
    exact ⟨_, accept_eq_error.mpr (.inr ⟨seeping, room, taken, late, rfl⟩), _, rfl,
      not_dates.mp late⟩
  refused vehicle now maySeep stopped failed := by
    rcases accept_eq_error.mp failed with ⟨-, rfl⟩ | ⟨seeping, room, -, late, rfl⟩
    · exact .inl rfl
    · exact .inr ⟨_, rfl, not_dates.mp late⟩
  leaves ahead vehicle behind movesOn split first := by
    have found : queue.vehicles.find? (·.agent == vehicle.agent) = some vehicle :=
      List.find?_eq_some_iff_append.mpr
        ⟨beq_self_eq_true _, ahead, behind, split, by simpa using first⟩
    exact ⟨_, take_of_find? found movesOn, vehicles_releasing split first movesOn⟩
  absent agent movesOn absent := take_eq_error.mpr ⟨absent, rfl⟩
  missed agent movesOn stopped failed := by
    rw [(take_eq_error.mp failed).2]

end LinkQueue

namespace Ledger

/-- The ledger after one use of the queue. -/
def serve (ledger : Ledger α) : LinkQueue.Use α → Ledger α
  | .accept vehicle now maySeep =>
      match ledger.queue.accept vehicle now maySeep with
      | .ok (exitTick, queue) =>
          { ledger with
            queue
            admitted := ledger.admitted ++ [⟨vehicle, now, exitTick⟩] }
      | .error stopped => { ledger with queue := stopped.reached }
  | .take agent movesOn =>
      match ledger.queue.take agent movesOn with
      | .ok (vehicle, queue) =>
          { ledger with queue, taken := ledger.taken ++ [(agent, vehicle)] }
      | .error stopped => { ledger with queue := stopped.reached }
  | .refill => { ledger with queue := ledger.queue.refill }
  | .refresh link table => { ledger with queue := ledger.queue.refresh link table }
  | .markBlocked agent now => { ledger with queue := ledger.queue.markBlocked agent now }

def after (ledger : Ledger α) (uses : List (LinkQueue.Use α)) : Ledger α :=
  uses.foldl serve ledger

namespace Balances

variable {ledger : Ledger α} (balances : ledger.Balances)
include balances

theorem accept {vehicle : Vehicle α} {now exitTick : Tick} {maySeep : Bool}
    {queue : LinkQueue α} (accepted : ledger.queue.accept vehicle now maySeep =
      .ok (exitTick, queue)) :
    Balances { ledger with
      queue, admitted := ledger.admitted ++ [⟨vehicle, now, exitTick⟩] } := by
  obtain ⟨seeping, room, -, -, rfl, rfl⟩ := LinkQueue.accept_eq_ok.mp accepted
  have known : (Ledger.known { ledger with
      queue := ledger.queue.holding (ledger.queue.stamped vehicle now seeping)
      admitted := ledger.admitted ++
        [⟨vehicle, now, now + ledger.queue.travelTicks vehicle.maxSpeed⟩] }).Perm
      (ledger.queue.stamped vehicle now seeping :: ledger.known) :=
    (ledger.queue.holding_perm _).append_right _
  constructor
  · exact balances.ordered.holding vehicle now seeping
  · rw [List.length_append, balances.counted]
    rfl
  · calc
      _ = _ := rfl
      List.Perm _ (ledger.queue.nextSeq :: ledger.known.map (·.seq)) := known.map (·.seq)
      List.Perm _ (ledger.queue.nextSeq :: List.range ledger.queue.nextSeq) :=
        balances.numbers.cons _
      List.Perm _ (List.range ledger.queue.nextSeq ++ [ledger.queue.nextSeq]) :=
        (List.perm_append_singleton ..).symm
      _ = List.range (ledger.queue.nextSeq + 1) := List.range_succ.symm
  · intro other member
    rcases List.mem_cons.mp (known.mem_iff.mp member) with rfl | old
    · refine ⟨⟨vehicle, now, _⟩, ?_, ledger.queue.stands_stamped vehicle now seeping⟩
      change (ledger.admitted ++ [_])[ledger.queue.nextSeq]? = _
      rw [← balances.counted]
      exact List.getElem?_concat_length
    · obtain ⟨admission, listed, stands⟩ := balances.stands other old
      have bound := (List.getElem?_eq_some_iff.mp listed).1
      exact ⟨admission, (List.getElem?_append_left bound).trans listed, stands⟩
  · exact balances.asked

theorem remove {agent : AgentId} {movesOn : Bool} {vehicle : Vehicle α} {queue : LinkQueue α}
    (removed : ledger.queue.take agent movesOn = .ok (vehicle, queue)) :
    Balances { ledger with queue, taken := ledger.taken ++ [(agent, vehicle)] } := by
  obtain ⟨found, rfl⟩ := LinkQueue.take_eq_ok.mp removed
  have known : (Ledger.known { ledger with
      queue := ledger.queue.releasing vehicle movesOn
      taken := ledger.taken ++ [(agent, vehicle)] }).Perm ledger.known := by
    calc
      _ = (ledger.queue.releasing vehicle movesOn).vehicles ++
          (ledger.taken ++ [(agent, vehicle)]).map (·.2) := rfl
      _ = (ledger.queue.releasing vehicle movesOn).vehicles ++
          (ledger.taken.map (·.2) ++ [vehicle]) := by rw [List.map_append]; rfl
      List.Perm _ ((ledger.queue.releasing vehicle movesOn).vehicles ++
          (vehicle :: ledger.taken.map (·.2))) :=
        (List.perm_append_singleton ..).append_left _
      List.Perm _ (vehicle :: ((ledger.queue.releasing vehicle movesOn).vehicles ++
          ledger.taken.map (·.2))) := List.perm_middle
      List.Perm _ ledger.known :=
        (LinkQueue.releasing_perm found movesOn).symm.append_right _
  constructor
  · exact balances.ordered.releasing vehicle movesOn
  · exact balances.counted
  · exact (known.map (·.seq)).trans balances.numbers
  · intro other member
    exact balances.stands other (known.mem_iff.mp member)
  · intro entry member
    rcases List.mem_append.mp member with old | new
    · exact balances.asked entry old
    · obtain rfl := List.mem_singleton.mp new
      simpa using List.find?_some found

theorem serve (use : LinkQueue.Use α) : (ledger.serve use).Balances := by
  cases use with
  | accept vehicle now maySeep =>
      rw [Ledger.serve]
      split
      next accepted => exact balances.accept accepted
      next failed =>
        obtain ⟨_, _, same⟩ := LinkQueue.exists_of_accept_error failed
        rw [same]
        exact balances.of_queue rfl rfl rfl
  | take agent movesOn =>
      rw [Ledger.serve]
      split
      next removed => exact balances.remove removed
      next failed =>
        obtain ⟨-, rfl⟩ := LinkQueue.take_eq_error.mp failed
        exact balances
  | refill => exact balances.of_queue rfl rfl rfl
  | refresh link table => exact balances.of_queue rfl rfl rfl
  | markBlocked agent now =>
      obtain ⟨blocked, same⟩ := ledger.queue.exists_markBlocked agent now
      rw [Ledger.serve, same]
      exact balances.of_queue rfl rfl rfl

theorem after (uses : List (LinkQueue.Use α)) : (ledger.after uses).Balances := by
  induction uses generalizing ledger with
  | nil => exact balances
  | cons use rest ih => exact ih (balances.serve use)

end Balances

theorem passing_serve (ledger : Ledger α) (use : LinkQueue.Use α) :
    (ledger.serve use).queue.passing = ledger.queue.passing := by
  cases use with
  | accept vehicle now maySeep =>
      rw [serve]
      split
      next accepted =>
        obtain ⟨seeping, room, -, -, -, rfl⟩ := LinkQueue.accept_eq_ok.mp accepted
        rfl
      next failed =>
        obtain ⟨_, _, same⟩ := LinkQueue.exists_of_accept_error failed
        rw [same]
  | take agent movesOn =>
      rw [serve]
      split
      next removed =>
        obtain ⟨-, rfl⟩ := LinkQueue.take_eq_ok.mp removed
        rfl
      next failed =>
        obtain ⟨-, rfl⟩ := LinkQueue.take_eq_error.mp failed
        rfl
  | refill => rfl
  | refresh link table => rfl
  | markBlocked agent now =>
      obtain ⟨blocked, same⟩ := ledger.queue.exists_markBlocked agent now
      rw [serve, same]

theorem passing_after (ledger : Ledger α) (uses : List (LinkQueue.Use α)) :
    (ledger.after uses).queue.passing = ledger.queue.passing := by
  induction uses generalizing ledger with
  | nil => rfl
  | cons use rest ih => exact (ih (ledger.serve use)).trans (ledger.passing_serve use)

end Ledger

/-- Whatever is done with the queue of a link, it holds those who came and were not taken off,
each with the exit that was answered, in the order of the link. It admits whoever fits, unless the
exit is beyond all counting, and gives out whoever is there. A refusal leaves it as it was. -/
theorem LinkQueue.tells_after (key : LinkId) (link : Link α) (dynamics : Dynamics α)
    (table : ModeTable α) (tickSecs : Nat) (uses : List (Use α)) :
    (Ledger.after { queue := ofLink key link dynamics table tickSecs } uses).Tells
      (dynamics.passing && link.allowsPassing) ∧
    (Ledger.after { queue := ofLink key link dynamics table tickSecs } uses).queue.Responds := by
  refine ⟨?_, responds _⟩
  have balances : Ledger.Balances { queue := ofLink key link dynamics table tickSecs } :=
    .of_empty rfl rfl
  have tells := (balances.after uses).tells
  rwa [Ledger.passing_after] at tells

end MixedTraffic

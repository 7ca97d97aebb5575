import Mathlib.Data.List.Sort
import Mathlib.Data.List.TakeWhile
import MixedTraffic.Proofs.Run.Frame

namespace MixedTraffic

variable {α : Type}

/-! The order in which vehicles stand on a link, and what else of a link stays as it is until
a vehicle comes or goes. -/

namespace LinkQueue

/-- Whether a vehicle stands ahead of another: it was admitted before it, or, where passing is
allowed, may leave earlier or was admitted before it among those that may leave together. -/
def Ahead (queue : LinkQueue α) (vehicle other : Vehicle α) : Prop :=
  if queue.passing then
    vehicle.exitTick < other.exitTick ∨
      vehicle.exitTick = other.exitTick ∧ vehicle.seq < other.seq
  else vehicle.seq < other.seq

variable {queue queue' : LinkQueue α} {vehicle other third : Vehicle α}

theorem Ahead.congr (same : queue'.passing = queue.passing) :
    queue'.Ahead vehicle other ↔ queue.Ahead vehicle other := by
  rw [Ahead, Ahead, same]

theorem Ahead.asymm (ahead : queue.Ahead vehicle other) : ¬queue.Ahead other vehicle := by
  grind [Ahead]

theorem Ahead.trans (first : queue.Ahead vehicle other) (second : queue.Ahead other third) :
    queue.Ahead vehicle third := by
  grind [Ahead]

instance (queue : LinkQueue α) : Std.Irrefl queue.Ahead := ⟨fun _ ahead => ahead.asymm ahead⟩

instance (queue : LinkQueue α) : Std.Antisymm queue.Ahead :=
  ⟨fun _ _ ahead behind => absurd behind ahead.asymm⟩

/-- A vehicle that comes onto a link now stands behind all that may leave by now. -/
theorem Ahead.not_of_newcomer {now : Tick} (ready : other.exitTick ≤ now)
    (numbered : other.seq < vehicle.seq) (later : now < vehicle.exitTick) :
    ¬queue.Ahead vehicle other := by
  grind [Ahead]

/-- That the vehicles of a queue stand in order, by admission numbers given out before. -/
structure Ordered (queue : LinkQueue α) : Prop where
  sorted : queue.vehicles.Pairwise queue.Ahead
  numbered : ∀ vehicle ∈ queue.vehicles, vehicle.seq < queue.nextSeq

namespace Ordered

theorem ahead_of_mem (ordered : queue.Ordered) {front behind : List (Vehicle α)}
    (split : queue.vehicles = front ++ vehicle :: behind) (later : other ∈ behind) :
    queue.Ahead vehicle other := by
  have sorted := ordered.sorted
  rw [split, List.pairwise_append, List.pairwise_cons] at sorted
  exact sorted.2.1.1 other later

theorem mem_of_ahead (ordered : queue.Ordered) {front behind : List (Vehicle α)}
    (split : queue.vehicles = front ++ vehicle :: behind) (member : other ∈ queue.vehicles)
    (ahead : queue.Ahead other vehicle) : other ∈ front := by
  rw [split, List.mem_append, List.mem_cons] at member
  obtain before | rfl | later := member
  · exact before
  · exact absurd ahead (irrefl other)
  · exact absurd ahead (ordered.ahead_of_mem split later).asymm

theorem head?_eq_some (ordered : queue.Ordered) (member : vehicle ∈ queue.vehicles)
    (first : ∀ other ∈ queue.vehicles, ¬queue.Ahead other vehicle) :
    queue.vehicles.head? = some vehicle := by
  have sorted := ordered.sorted
  cases split : queue.vehicles with
  | nil =>
      rw [split] at member
      cases member
  | cons front rest =>
      rw [split] at member sorted
      obtain rfl | later := List.mem_cons.mp member
      · rfl
      · refine absurd ((List.pairwise_cons.mp sorted).1 vehicle later) (first front ?_)
        rw [split]
        exact List.mem_cons_self

theorem eq_of_mem_iff (ordered : queue.Ordered) (ordered' : queue'.Ordered)
    (same : queue'.passing = queue.passing)
    (members : ∀ vehicle, vehicle ∈ queue'.vehicles ↔ vehicle ∈ queue.vehicles) :
    queue'.vehicles = queue.vehicles :=
  List.Pairwise.eq_of_mem_iff (ordered'.sorted.imp (Ahead.congr same).mp) ordered.sorted members

theorem of_empty (empty : queue.vehicles = []) : queue.Ordered := by
  constructor <;> rw [empty]
  · exact .nil
  · exact List.forall_mem_nil _

theorem markBlocked (ordered : queue.Ordered) (agent : AgentId) (now : Tick) :
    (queue.markBlocked agent now).Ordered := by
  unfold LinkQueue.markBlocked
  split
  · exact ordered
  · exact ⟨ordered.sorted, ordered.numbered⟩

section Admission

variable [Quantity α]

theorem isAhead_iff (ordered : queue.Ordered) (passing : queue.passing = true)
    (member : other ∈ queue.vehicles) (vehicle : Vehicle α) (now : Tick) (seeping : Bool) :
    other.isAhead (queue.stamped vehicle now seeping) = true ↔
      queue.Ahead other (queue.stamped vehicle now seeping) := by
  have earlier := ordered.numbered other member
  have number : (queue.stamped vehicle now seeping).seq = queue.nextSeq := rfl
  grind [Vehicle.isAhead, Ahead]

theorem ahead_of_not_isAhead (ordered : queue.Ordered) (passing : queue.passing = true)
    (member : other ∈ queue.vehicles) {vehicle : Vehicle α} {now : Tick} {seeping : Bool}
    (behind : other.isAhead (queue.stamped vehicle now seeping) = false) :
    queue.Ahead (queue.stamped vehicle now seeping) other := by
  have earlier := ordered.numbered other member
  have number : (queue.stamped vehicle now seeping).seq = queue.nextSeq := rfl
  grind [Vehicle.isAhead, Ahead]

theorem ahead_of_mem_dropWhile (ordered : queue.Ordered) (passing : queue.passing = true)
    {vehicle : Vehicle α} {now : Tick} {seeping : Bool}
    (left : other ∈ queue.vehicles.dropWhile (·.isAhead (queue.stamped vehicle now seeping))) :
    queue.Ahead (queue.stamped vehicle now seeping) other := by
  have part := List.dropWhile_sublist (l := queue.vehicles)
    (·.isAhead (queue.stamped vehicle now seeping))
  have stops := List.head?_dropWhile_not (·.isAhead (queue.stamped vehicle now seeping))
    queue.vehicles
  have sorted := ordered.sorted.sublist part
  generalize queue.vehicles.dropWhile (·.isAhead (queue.stamped vehicle now seeping)) = behind
    at left part stops sorted
  cases behind with
  | nil => cases left
  | cons front later =>
      have first := ordered.ahead_of_not_isAhead passing (part.mem List.mem_cons_self) stops
      obtain rfl | further := List.mem_cons.mp left
      · exact first
      · exact first.trans ((List.pairwise_cons.mp sorted).1 other further)

theorem place (ordered : queue.Ordered) (vehicle : Vehicle α) (now : Tick) (seeping : Bool) :
    (queue.place (queue.stamped vehicle now seeping)).Pairwise queue.Ahead := by
  unfold LinkQueue.place
  split
  · rename_i passing
    have parts := ordered.sorted
    rw [← List.takeWhile_append_dropWhile (p := (·.isAhead (queue.stamped vehicle now seeping)))
      (l := queue.vehicles), List.pairwise_append] at parts
    obtain ⟨before, after, across⟩ := parts
    rw [List.pairwise_append, List.pairwise_cons]
    refine ⟨before, ⟨fun other left => ordered.ahead_of_mem_dropWhile passing left, after⟩, ?_⟩
    intro other taken
    have member := (List.takeWhile_sublist _).mem taken
    have ahead : other.isAhead (queue.stamped vehicle now seeping) = true :=
      List.mem_takeWhile_imp (p := fun other : Vehicle α => other.isAhead _) taken
    exact List.forall_mem_cons.mpr
      ⟨(ordered.isAhead_iff passing member ..).mp ahead, across other taken⟩
  · rename_i fifo
    rw [List.pairwise_append]
    refine ⟨ordered.sorted, List.pairwise_singleton .., fun other member => ?_⟩
    rw [List.forall_mem_singleton, Ahead, if_neg fifo]
    exact ordered.numbered other member

theorem holding (ordered : queue.Ordered) (vehicle : Vehicle α) (now : Tick) (seeping : Bool) :
    (queue.holding (queue.stamped vehicle now seeping)).Ordered where
  sorted := ordered.place vehicle now seeping
  numbered other member := by
    obtain rfl | old := List.mem_cons.mp ((queue.holding_perm _).mem_iff.mp member)
    · exact Nat.lt_succ_self _
    · exact Nat.lt_succ_of_lt (ordered.numbered other old)

theorem releasing (ordered : queue.Ordered) (vehicle : Vehicle α) (movesOn : Bool) :
    (queue.releasing vehicle movesOn).Ordered where
  sorted := ordered.sorted.eraseP _
  numbered other member := ordered.numbered other (List.mem_of_mem_eraseP member)

end Admission

end Ordered

end LinkQueue

/-- What of a link is the same until a vehicle comes, goes or is turned away. -/
structure Lineup (α : Type) where
  passing : Bool
  nextSeq : Nat
  vehicles : List (Vehicle α)
  blocked : Option (AgentId × Tick)

def LinkQueue.lineup (queue : LinkQueue α) : Lineup α where
  passing := queue.passing
  nextSeq := queue.nextSeq
  vehicles := queue.vehicles
  blocked := queue.blocked

theorem LinkQueue.Ordered.of_lineup {queue queue' : LinkQueue α} (ordered : queue.Ordered)
    (same : queue'.lineup = queue.lineup) : queue'.Ordered := by
  simp only [lineup, Lineup.mk.injEq] at same
  obtain ⟨passing, nextSeq, vehicles, -⟩ := same
  constructor
  · rw [vehicles]
    exact ordered.sorted.imp (Ahead.congr passing).mpr
  · rw [vehicles, nextSeq]
    exact ordered.numbered

namespace Roads

def lineups (roads : Roads α) : Array (Lineup α) := roads.queues.map (·.lineup)

def InLine (roads : Roads α) : Prop :=
  ∀ link queue, roads.queue? link = some queue → queue.Ordered

theorem lineup_of_lineups {roads roads' : Roads α} (same : roads'.lineups = roads.lineups)
    {link : LinkId} {queue' : LinkQueue α} (present : roads'.queue? link = some queue') :
    ∃ queue, roads.queue? link = some queue ∧ queue'.lineup = queue.lineup := by
  have part := queue?_of_map_eq same link
  rw [present, Option.map_some, eq_comm, Option.map_eq_some_iff] at part
  obtain ⟨queue, found, equal⟩ := part
  exact ⟨queue, found, equal.symm⟩

theorem InLine.of_lineups {roads roads' : Roads α} (inLine : roads.InLine)
    (same : roads'.lineups = roads.lineups) : roads'.InLine := by
  intro link queue' present
  obtain ⟨queue, found, equal⟩ := lineup_of_lineups same present
  exact (inLine link queue found).of_lineup equal

theorem InLine.setQueue {roads : Roads α} (inLine : roads.InLine) {link : LinkId}
    {old new : LinkQueue α} (present : roads.queue? link = some old) (ordered : new.Ordered) :
    (roads.setQueue link new).InLine := by
  intro other queue found
  rw [queue?_setQueue present] at found
  split at found
  · cases found
    exact ordered
  · exact inLine other queue found

section Frames

variable [Quantity α]

theorem lineups_refresh (roads : Roads α) (link : LinkId) (network : Network α)
    (table : ModeTable α) : (roads.refresh link network table).lineups = roads.lineups := by
  have updated {queue : LinkQueue α} (attributes : Link α)
      (present : roads.queue? link = some queue) :
      (roads.setQueue link (queue.refresh attributes table)).lineups = roads.lineups :=
    map_setQueue present rfl
  unfold refresh
  dsimp only
  split <;> split
  · exact updated _ ‹_›
  · rfl
  · exact updated _ ‹_›
  · rfl

theorem lineups_refill (roads : Roads α) : roads.refill.lineups = roads.lineups := by
  simp only [lineups, refill, Array.map_map]
  rfl

theorem inLine_of_ofNetwork {network : Network α} {dynamics : Dynamics α} {table : ModeTable α}
    {tickSecs : Nat} {roads : Roads α}
    (opened : ofNetwork network dynamics table tickSecs = .ok roads) : roads.InLine :=
  fun _ _ present => .of_empty (empty_of_ofNetwork opened present).1

end Frames

end Roads

/-- Neither a change of the network nor the beginning of an interval moves a vehicle. -/
theorem World.refilled_lineups [Quantity α] {world changed : World α}
    (made : world.applyChanges = .ok changed) :
    changed.refilled.roads.lineups = world.roads.lineups := by
  have kept := foldlM_applyChange_preserves (fun _ roads => roads.lineups = world.roads.lineups)
    (fun _ roads _ _ _ same _ => (roads.lineups_refresh ..).trans same) rfl made
  exact (changed.roads.lineups_refill).trans kept

end MixedTraffic

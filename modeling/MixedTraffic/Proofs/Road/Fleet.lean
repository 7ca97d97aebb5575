import MixedTraffic.Proofs.Road.LinkQueue
import MixedTraffic.Road.Roads

namespace MixedTraffic

variable {α : Type}

/-! All vehicles on the roads, each with its link, without regard to their order. -/

def LinkQueue.load (queue : LinkQueue α) : List (LinkId × Vehicle α) :=
  queue.vehicles.map (queue.link, ·)

namespace Roads

def fleet (roads : Roads α) : List (LinkId × Vehicle α) :=
  roads.queues.toList.flatMap LinkQueue.load

def riders (roads : Roads α) : List AgentId := roads.fleet.map (·.2.agent)

def Labelled (roads : Roads α) : Prop :=
  ∀ link queue, roads.queue? link = some queue → queue.link = link

theorem queue?_setQueue {roads : Roads α} {link : LinkId} {old : LinkQueue α}
    (present : roads.queue? link = some old) (new : LinkQueue α) (other : LinkId) :
    (roads.setQueue link new).queue? other =
      if other = link then some new else roads.queue? other := by
  obtain ⟨index⟩ := link
  obtain ⟨position⟩ := other
  have bound : index < roads.queues.size := by
    obtain ⟨bound, -⟩ := Array.getElem?_eq_some_iff.mp present
    exact bound
  by_cases same : position = index
  · subst same
    simp [queue?, setQueue, bound]
  · simp [queue?, setQueue, same, Ne.symm same]

theorem setQueue_self {roads : Roads α} {link : LinkId} {queue : LinkQueue α}
    (present : roads.queue? link = some queue) : roads.setQueue link queue = roads := by
  obtain ⟨bound, same⟩ := Array.getElem?_eq_some_iff.mp present
  have kept : roads.queues.setIfInBounds link.index queue = roads.queues := by
    rw [← same, Array.setIfInBounds, dif_pos bound, Array.set_getElem_self]
  rw [setQueue, kept]

@[simp] theorem queue?_setQueue_self {roads : Roads α} {link : LinkId} {old : LinkQueue α}
    (present : roads.queue? link = some old) (new : LinkQueue α) :
    (roads.setQueue link new).queue? link = some new := by
  simp [queue?_setQueue present]

theorem queue?_refill [Quantity α] {roads : Roads α} {link : LinkId} {queue : LinkQueue α}
    (present : roads.queue? link = some queue) :
    roads.refill.queue? link = some queue.refill := by
  rw [queue?, refill, Array.getElem?_map]
  exact congrArg (Option.map LinkQueue.refill) present

theorem Labelled.setQueue {roads : Roads α} (labelled : roads.Labelled) {link : LinkId}
    {old new : LinkQueue α} (present : roads.queue? link = some old)
    (same : new.link = old.link) : (roads.setQueue link new).Labelled := by
  intro other queue found
  rw [queue?_setQueue present] at found
  split at found
  · rename_i equal
    cases found
    rw [same, labelled link old present, equal]
  · exact labelled other queue found

theorem fleet_setQueue_perm {roads : Roads α} {link : LinkId} {old : LinkQueue α}
    (present : roads.queue? link = some old) (new : LinkQueue α) :
    ((roads.setQueue link new).fleet ++ old.load).Perm (roads.fleet ++ new.load) := by
  obtain ⟨bound, at_index⟩ := Array.getElem?_eq_some_iff.mp present
  have split : roads.queues.toList =
      roads.queues.toList.take link.index ++
        old :: roads.queues.toList.drop (link.index + 1) := by
    rw [← at_index, ← Array.getElem_toList, List.getElem_cons_drop, List.take_append_drop]
  have updated : (roads.setQueue link new).queues.toList =
      roads.queues.toList.take link.index ++
        new :: roads.queues.toList.drop (link.index + 1) := by
    simp [setQueue, List.set_eq_take_append_cons_drop, bound]
  unfold fleet
  rw [updated]
  conv => rhs; rw [split]
  simp only [List.flatMap_append, List.flatMap_cons, List.append_assoc]
  refine List.Perm.append_left _ ?_
  refine List.perm_append_comm.trans ?_
  rw [← List.append_assoc old.load]
  exact List.Perm.append_right _ List.perm_append_comm

theorem fleet_setQueue_of_load_eq {roads : Roads α} {link : LinkId} {old new : LinkQueue α}
    (present : roads.queue? link = some old) (same : new.load = old.load) :
    (roads.setQueue link new).fleet.Perm roads.fleet := by
  have perm := fleet_setQueue_perm present new
  rw [same] at perm
  exact (List.perm_append_right_iff _).mp perm

theorem fleet_setQueue_of_load_perm {roads : Roads α} {link : LinkId}
    {old new : LinkQueue α} {entry : LinkId × Vehicle α}
    (present : roads.queue? link = some old) (more : new.load.Perm (entry :: old.load)) :
    (roads.setQueue link new).fleet.Perm (entry :: roads.fleet) := by
  have perm := fleet_setQueue_perm present new
  have moved : (roads.fleet ++ new.load).Perm (entry :: roads.fleet ++ old.load) :=
    (more.append_left _).trans List.perm_middle
  exact (List.perm_append_right_iff _).mp (perm.trans moved)

theorem fleet_perm_of_load_perm {roads : Roads α} {link : LinkId}
    {old new : LinkQueue α} {entry : LinkId × Vehicle α}
    (present : roads.queue? link = some old) (less : old.load.Perm (entry :: new.load)) :
    roads.fleet.Perm (entry :: (roads.setQueue link new).fleet) := by
  have perm := fleet_setQueue_perm present new
  have moved : ((roads.setQueue link new).fleet ++ old.load).Perm
      (entry :: (roads.setQueue link new).fleet ++ new.load) :=
    (less.append_left _).trans List.perm_middle
  exact ((List.perm_append_right_iff _).mp (moved.symm.trans perm)).symm

theorem mem_fleet {roads : Roads α} (labelled : roads.Labelled) {link : LinkId}
    {vehicle : Vehicle α} :
    (link, vehicle) ∈ roads.fleet ↔
      ∃ queue, roads.queue? link = some queue ∧ vehicle ∈ queue.vehicles := by
  unfold fleet LinkQueue.load
  simp only [List.mem_flatMap, Array.mem_toList_iff, List.mem_map, Prod.mk.injEq]
  constructor
  · rintro ⟨queue, member, _, aboard, named, rfl⟩
    obtain ⟨index, bound, rfl⟩ := Array.mem_iff_getElem.mp member
    have present : roads.queue? ⟨index⟩ = some roads.queues[index] := by
      simp [queue?, bound]
    rw [← named, labelled _ _ present]
    exact ⟨_, present, aboard⟩
  · rintro ⟨queue, present, aboard⟩
    exact ⟨queue, Array.mem_of_getElem? present, vehicle, aboard,
      labelled link queue present, rfl⟩

theorem size_eq_length_fleet (roads : Roads α) : roads.size = roads.fleet.length := by
  have total (queues : List (LinkQueue α)) (start : Nat) :
      queues.foldl (fun total queue => total + queue.vehicles.length) start =
        start + (queues.flatMap LinkQueue.load).length := by
    induction queues generalizing start with
    | nil => simp
    | cons queue rest ih =>
        rw [List.foldl_cons, ih]
        simp only [List.flatMap_cons, List.length_append, LinkQueue.load, List.length_map]
        omega
  unfold size fleet
  rw [← Array.foldl_toList, total]
  omega

section Opening

variable [Quantity α]

/-- Roads are opened without vehicles once the rules of traffic have been checked. -/
theorem ofNetwork_eq_ok {network : Network α} {dynamics : Dynamics α} {table : ModeTable α}
    {tickSecs : Nat} {roads : Roads α} :
    ofNetwork network dynamics table tickSecs = .ok roads ↔
      dynamics.check table = .ok () ∧
      roads = {
        queues := network.links.mapIdx fun position link =>
          LinkQueue.ofLink ⟨position⟩ link dynamics table tickSecs
        inbound := rankInbound dynamics.inboundOrder network
        order := dynamics.inboundOrder
        seepFlags := dynamics.seepFlags table
        stuckTicks := dynamics.stuckTicks tickSecs } := by
  simp only [ofNetwork, Attempt.bind_eq_ok, Attempt.mapError_eq_ok, Attempt.pure_eq_ok]
  constructor
  · rintro ⟨_, checked, rfl⟩
    exact ⟨checked, rfl⟩
  · rintro ⟨checked, rfl⟩
    exact ⟨(), checked, rfl⟩

theorem queue?_of_ofNetwork {network : Network α} {dynamics : Dynamics α}
    {table : ModeTable α} {tickSecs : Nat} {roads : Roads α}
    (opened : ofNetwork network dynamics table tickSecs = .ok roads) (link : LinkId) :
    roads.queue? link = (network.link? link).map fun attributes =>
      LinkQueue.ofLink link attributes dynamics table tickSecs := by
  obtain ⟨-, rfl⟩ := ofNetwork_eq_ok.mp opened
  simp only [queue?, Array.getElem?_mapIdx]
  rfl

theorem labelled_of_ofNetwork {network : Network α} {dynamics : Dynamics α}
    {table : ModeTable α} {tickSecs : Nat} {roads : Roads α}
    (opened : ofNetwork network dynamics table tickSecs = .ok roads) : roads.Labelled := by
  intro link queue present
  rw [queue?_of_ofNetwork opened, Option.map_eq_some_iff] at present
  obtain ⟨attributes, -, rfl⟩ := present
  rfl

theorem empty_of_ofNetwork {network : Network α} {dynamics : Dynamics α}
    {table : ModeTable α} {tickSecs : Nat} {roads : Roads α}
    (opened : ofNetwork network dynamics table tickSecs = .ok roads) {link : LinkId}
    {queue : LinkQueue α} (present : roads.queue? link = some queue) :
    queue.vehicles = [] ∧ queue.blocked = none := by
  rw [queue?_of_ofNetwork opened, Option.map_eq_some_iff] at present
  obtain ⟨attributes, -, rfl⟩ := present
  exact ⟨rfl, rfl⟩

theorem fleet_of_ofNetwork {network : Network α} {dynamics : Dynamics α}
    {table : ModeTable α} {tickSecs : Nat} {roads : Roads α}
    (opened : ofNetwork network dynamics table tickSecs = .ok roads) : roads.fleet = [] := by
  apply List.eq_nil_iff_forall_not_mem.mpr
  intro entry member
  obtain ⟨queue, present, aboard⟩ := (mem_fleet (labelled_of_ofNetwork opened)).mp member
  rw [(empty_of_ofNetwork opened present).1] at aboard
  cases aboard

end Opening

section Admission

variable [Quantity α]

theorem fleet_holding {roads : Roads α} {link : LinkId} {queue : LinkQueue α}
    (present : roads.queue? link = some queue) (vehicle : Vehicle α) :
    (roads.setQueue link (queue.holding vehicle)).fleet.Perm
      ((queue.link, vehicle) :: roads.fleet) :=
  fleet_setQueue_of_load_perm present
    ((queue.holding_perm vehicle).map ((queue.link, ·) : Vehicle α → LinkId × Vehicle α))

theorem fleet_releasing {roads : Roads α} {link : LinkId} {queue : LinkQueue α}
    {vehicle : Vehicle α} {agent : AgentId} (present : roads.queue? link = some queue)
    (found : queue.vehicles.find? (·.agent == agent) = some vehicle) (movesOn : Bool) :
    roads.fleet.Perm ((queue.link, vehicle) ::
      (roads.setQueue link (queue.releasing vehicle movesOn)).fleet) :=
  fleet_perm_of_load_perm present
    ((LinkQueue.releasing_perm found movesOn).map
      ((queue.link, ·) : Vehicle α → LinkId × Vehicle α))

end Admission

end Roads

end MixedTraffic

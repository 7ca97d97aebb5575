import MixedTraffic.Proofs.Run.History

namespace MixedTraffic

variable {α : Type}

/-! What a happening, a change of the network or a new interval leaves as it is. -/

structure Site (α : Type) where
  link : LinkId
  length : α
  tickSecs : Nat
  storage : α
  seepStorage : α
  passing : Bool

def LinkQueue.site (queue : LinkQueue α) : Site α where
  link := queue.link
  length := queue.length
  tickSecs := queue.tickSecs
  storage := queue.storage
  seepStorage := queue.seepStorage
  passing := queue.passing

/-- A queue that differs from another at most in its speed, its flow and the first vehicle
turned away. -/
structure LinkQueue.Like (queue' queue : LinkQueue α) : Prop where
  site : queue'.site = queue.site
  occupied : queue'.occupied = queue.occupied
  seepOccupied : queue'.seepOccupied = queue.seepOccupied
  vehicles : queue'.vehicles = queue.vehicles

namespace LinkQueue

theorem Like.load {queue' queue : LinkQueue α} (like : queue'.Like queue) :
    queue'.load = queue.load := by
  have link : queue'.link = queue.link := congrArg Site.link like.site
  simp only [LinkQueue.load, link, like.vehicles]

theorem markBlocked_like (queue : LinkQueue α) (agent : AgentId) (now : Tick) :
    (queue.markBlocked agent now).Like queue := by
  unfold markBlocked
  split <;> constructor <;> rfl

variable [Quantity α]

theorem holding_site (queue : LinkQueue α) (vehicle : Vehicle α) :
    (queue.holding vehicle).site = queue.site := rfl

theorem releasing_site (queue : LinkQueue α) (vehicle : Vehicle α) (movesOn : Bool) :
    (queue.releasing vehicle movesOn).site = queue.site := rfl

theorem refresh_like (queue : LinkQueue α) (link : Link α) (table : ModeTable α) :
    (queue.refresh link table).Like queue := by
  constructor <;> rfl

theorem refill_like (queue : LinkQueue α) : queue.refill.Like queue := by
  constructor <;> rfl

end LinkQueue

namespace Roads

def rules (roads : Roads α) : InboundOrder × Array Bool × Option Nat :=
  (roads.order, roads.seepFlags, roads.stuckTicks)

def sites (roads : Roads α) : Array (Site α) := roads.queues.map (·.site)

/-- Roads of which every queue is like the one in its place. -/
structure Like (roads' roads : Roads α) : Prop where
  rules : roads'.rules = roads.rules
  sites : roads'.sites = roads.sites
  queues : ∀ link queue', roads'.queue? link = some queue' →
    ∃ queue, roads.queue? link = some queue ∧ queue'.Like queue
  fleet : roads'.fleet.Perm roads.fleet

theorem map_setQueue {β : Type} {part : LinkQueue α → β} {roads : Roads α} {link : LinkId}
    {old new : LinkQueue α} (present : roads.queue? link = some old)
    (same : part new = part old) :
    (roads.setQueue link new).queues.map part = roads.queues.map part := by
  obtain ⟨bound, at_link⟩ := Array.getElem?_eq_some_iff.mp present
  refine Array.ext_getElem? fun index => ?_
  simp only [setQueue, Array.getElem?_map, Array.getElem?_setIfInBounds, bound]
  split
  · rename_i equal
    subst equal
    simp [bound, same, at_link]
  · rfl

theorem queue?_of_map_eq {β : Type} {part : LinkQueue α → β} {roads' roads : Roads α}
    (same : roads'.queues.map part = roads.queues.map part) (link : LinkId) :
    (roads'.queue? link).map part = (roads.queue? link).map part := by
  have entry := congrArg (fun parts : Array β => parts[link.index]?) same
  simp only [Array.getElem?_map] at entry
  exact entry

theorem site_eq_of_sites {roads' roads : Roads α} (same : roads'.sites = roads.sites)
    {link : LinkId} {queue' : LinkQueue α} (present : roads'.queue? link = some queue') :
    ∃ queue, roads.queue? link = some queue ∧ queue'.site = queue.site := by
  have part := queue?_of_map_eq same link
  rw [present, Option.map_some, eq_comm, Option.map_eq_some_iff] at part
  obtain ⟨queue, listed, equal⟩ := part
  exact ⟨queue, listed, equal.symm⟩

theorem seeps_eq_of_rules {roads' roads : Roads α} (same : roads'.rules = roads.rules)
    (mode : ModeId) : roads'.seeps mode = roads.seeps mode := by
  simp only [rules, Prod.mk.injEq] at same
  simp only [seeps, same]

theorem stuckTicks_eq_of_rules {roads' roads : Roads α} (same : roads'.rules = roads.rules) :
    roads'.stuckTicks = roads.stuckTicks := by
  simp only [rules, Prod.mk.injEq] at same
  exact same.2.2

theorem Like.refl (roads : Roads α) : roads.Like roads where
  rules := rfl
  sites := rfl
  queues := fun _ queue present => ⟨queue, present, ⟨rfl, rfl, rfl, rfl⟩⟩
  fleet := .refl _

theorem Like.inbound {roads' roads : Roads α} (like : roads'.Like roads)
    (inbound : Array (List LinkId)) : ({ roads' with inbound } : Roads α).Like roads :=
  ⟨like.rules, like.sites, like.queues, like.fleet⟩

theorem Like.trans {roads'' roads' roads : Roads α} (second : roads''.Like roads')
    (first : roads'.Like roads) : roads''.Like roads where
  rules := second.rules.trans first.rules
  sites := second.sites.trans first.sites
  queues := by
    intro link queue'' found
    obtain ⟨queue', middle, after⟩ := second.queues link queue'' found
    obtain ⟨queue, present, before⟩ := first.queues link queue' middle
    exact ⟨queue, present, after.site.trans before.site, after.occupied.trans before.occupied,
      after.seepOccupied.trans before.seepOccupied, after.vehicles.trans before.vehicles⟩
  fleet := second.fleet.trans first.fleet

theorem Like.labelled {roads' roads : Roads α} (like : roads'.Like roads)
    (labelled : roads.Labelled) : roads'.Labelled := by
  intro link queue' present
  obtain ⟨queue, found, same⟩ := like.queues link queue' present
  rw [← labelled link queue found]
  exact congrArg Site.link same.site

theorem setQueue_like {roads : Roads α} {link : LinkId} {old new : LinkQueue α}
    (present : roads.queue? link = some old) (like : new.Like old) :
    (roads.setQueue link new).Like roads where
  rules := rfl
  sites := map_setQueue present like.site
  queues := by
    intro other queue' found
    rw [queue?_setQueue present] at found
    split at found
    · rename_i same
      cases found
      exact ⟨old, same ▸ present, like⟩
    · exact ⟨queue', found, ⟨rfl, rfl, rfl, rfl⟩⟩
  fleet := fleet_setQueue_of_load_eq present like.load

variable [Quantity α]

theorem refresh_like (roads : Roads α) (link : LinkId) (network : Network α)
    (table : ModeTable α) : (roads.refresh link network table).Like roads := by
  unfold refresh
  dsimp only
  split
  on_goal 2 => refine Like.inbound ?_ _
  all_goals
    split
    · rename_i queue attributes found _
      exact setQueue_like found (queue.refresh_like attributes table)
    · exact .refl roads

theorem refill_like (roads : Roads α) : roads.refill.Like roads where
  rules := rfl
  sites := by
    simp only [sites, refill, Array.map_map]
    rfl
  queues := by
    intro link queue' found
    simp only [queue?, refill, Array.getElem?_map, Option.map_eq_some_iff] at found
    obtain ⟨queue, present, rfl⟩ := found
    exact ⟨queue, present, queue.refill_like⟩
  fleet := by
    have same (queue : LinkQueue α) : queue.refill.load = queue.load := rfl
    simp only [fleet, refill, Array.toList_map, List.flatMap_map, same]
    exact .refl _

end Roads

variable [Quantity α]

theorem World.refilled_like {world changed : World α}
    (made : world.applyChanges = .ok changed) : changed.refilled.roads.Like world.roads := by
  have like := foldlM_applyChange_preserves (fun _ roads => roads.Like world.roads)
    (fun _ roads _ _ _ like _ => (roads.refresh_like ..).trans like) (.refl world.roads) made
  exact changed.roads.refill_like.trans like

namespace Traffic

variable {table : ModeTable α} {context : RouteContext} {traffic traffic' : Traffic α}
  {happening : Happening} {happenings : List Happening}

theorem Step.like_of_heldUp {id : AgentId} {link : LinkId}
    (step : Step table context traffic (.heldUp id link) traffic') :
    traffic'.roads.Like traffic.roads ∧ traffic'.population = traffic.population := by
  cases step with
  | heldUp present =>
      exact ⟨Roads.setQueue_like present (LinkQueue.markBlocked_like ..), rfl⟩

theorem Step.known (step : Step table context traffic happening traffic') :
    (∃ id link, happening = .heldUp id link) ∨
      (traffic.population.get? happening.agent).isSome := by
  cases step with
  | heldUp => exact .inl ⟨_, _, rfl⟩
  | departed found | skipped found | turnedAway found | gaveUp found
  | transferred _ _ _ _ found | arrived _ _ found | removed _ _ found =>
      exact .inr (Option.isSome_of_eq_some found)

theorem Step.rules (step : Step table context traffic happening traffic') :
    traffic'.roads.rules = traffic.roads.rules := by
  cases step <;> rfl

theorem Steps.rules (steps : Steps table context traffic happenings traffic') :
    traffic'.roads.rules = traffic.roads.rules := by
  induction steps with
  | nil => rfl
  | cons step _ ih => rw [ih, step.rules]

/-- What neither admission nor removal nor the record of a vehicle turned away changes of a
queue is not changed at all. -/
theorem Step.queues_map {β : Type} {part : LinkQueue α → β}
    (holding : ∀ queue vehicle, part (LinkQueue.holding queue vehicle) = part queue)
    (releasing : ∀ queue vehicle movesOn,
      part (LinkQueue.releasing queue vehicle movesOn) = part queue)
    (marked : ∀ queue agent now, part (LinkQueue.markBlocked queue agent now) = part queue)
    (step : Step table context traffic happening traffic') :
    traffic'.roads.queues.map part = traffic.roads.queues.map part := by
  cases step with
  | skipped | turnedAway | gaveUp => rfl
  | departed _ _ _ _ present => exact Roads.map_setQueue present (holding ..)
  | transferred present _ reached =>
      exact (Roads.map_setQueue reached (holding ..)).trans
        (Roads.map_setQueue present (releasing ..))
  | arrived present | removed present => exact Roads.map_setQueue present (releasing ..)
  | heldUp present => exact Roads.map_setQueue present (marked ..)

theorem Step.sites (step : Step table context traffic happening traffic') :
    traffic'.roads.sites = traffic.roads.sites :=
  step.queues_map LinkQueue.holding_site LinkQueue.releasing_site
    fun queue agent now => (queue.markBlocked_like agent now).site

theorem Steps.sites (steps : Steps table context traffic happenings traffic') :
    traffic'.roads.sites = traffic.roads.sites := by
  induction steps with
  | nil => rfl
  | cons step _ ih => rw [ih, step.sites]

theorem Step.inbound (step : Step table context traffic happening traffic') :
    traffic'.roads.inbound = traffic.roads.inbound := by
  cases step <;> rfl

theorem Step.size (step : Step table context traffic happening traffic') :
    traffic'.population.size = traffic.population.size := by
  cases step <;> simp [after]

theorem Steps.size (steps : Steps table context traffic happenings traffic') :
    traffic'.population.size = traffic.population.size := by
  induction steps with
  | nil => rfl
  | cons step _ ih => rw [ih, step.size]

theorem Step.get?_other (step : Step table context traffic happening traffic')
    {other : AgentId} (different : other ≠ happening.agent) :
    traffic'.population.get? other = traffic.population.get? other := by
  cases step with
  | heldUp => rfl
  | departed found | skipped found | turnedAway found | gaveUp found
  | transferred _ _ _ _ found | arrived _ _ found | removed _ _ found =>
      change (traffic.population.set _ _).get? other = _
      rw [Population.get?_set found]
      exact if_neg different

theorem Step.labelled (labelled : traffic.roads.Labelled)
    (step : Step table context traffic happening traffic') : traffic'.roads.Labelled := by
  cases step with
  | skipped | turnedAway | gaveUp => exact labelled
  | departed _ _ _ _ present => exact labelled.setQueue present rfl
  | transferred present _ reached =>
      refine Roads.Labelled.setQueue ?_ reached rfl
      exact labelled.setQueue present rfl
  | arrived present | removed present => exact labelled.setQueue present rfl
  | heldUp present =>
      exact labelled.setQueue present
        (congrArg Site.link (LinkQueue.markBlocked_like ..).site)

/-- A happening takes at most one vehicle off the roads and puts at most one on them. Both are
those of its agent. -/
theorem Step.fleet (step : Step table context traffic happening traffic') :
    ∃ taken put : Option (LinkId × Vehicle α),
      (taken.toList ++ traffic'.roads.fleet).Perm (put.toList ++ traffic.roads.fleet) ∧
      (∀ entry ∈ taken, entry.2.agent = happening.agent) ∧
      ∀ entry ∈ put, entry.2.agent = happening.agent := by
  have named {queue : LinkQueue α} {vehicle : Vehicle α} {id : AgentId}
      (aboard : queue.vehicles.find? (·.agent == id) = some vehicle) :
      vehicle.agent = id := by simpa using List.find?_some aboard
  cases step with
  | skipped | turnedAway | gaveUp => exact ⟨none, none, .refl _, by simp, by simp⟩
  | heldUp present =>
      exact ⟨none, none, (Roads.setQueue_like present (LinkQueue.markBlocked_like ..)).fleet,
        by simp, by simp⟩
  | departed _ _ _ _ present built =>
      refine ⟨none, some _, Roads.fleet_holding present _, by simp, ?_⟩
      rintro entry ⟨⟩
      have own := Vehicle.agent_of_new? built
      exact own
  | @transferred _ _ _ _ _ queue next vehicle seeping _ present aboard reached =>
      have off := Roads.fleet_releasing present aboard true
      have on := Roads.fleet_holding reached (next.stamped vehicle context.now seeping)
      refine ⟨some (queue.link, vehicle),
        some (next.link, next.stamped vehicle context.now seeping), ?_, ?_, ?_⟩
      · exact (on.cons _).trans ((List.Perm.swap ..).trans (off.symm.cons _))
      · rintro entry ⟨⟩
        have own := named aboard
        exact own
      · rintro entry ⟨⟩
        have own := named aboard
        exact own
  | arrived present aboard | removed present aboard =>
      refine ⟨some _, none, (Roads.fleet_releasing present aboard _).symm, ?_, by simp⟩
      rintro entry ⟨⟩
      exact named aboard

theorem Step.mem_fleet_other (step : Step table context traffic happening traffic')
    {entry : LinkId × Vehicle α} (different : entry.2.agent ≠ happening.agent) :
    entry ∈ traffic'.roads.fleet ↔ entry ∈ traffic.roads.fleet := by
  obtain ⟨taken, put, perm, off, on⟩ := step.fleet
  have same := perm.mem_iff (a := entry)
  have notOff : entry ∉ taken.toList := fun member =>
    different (off entry (by simpa using member))
  have notOn : entry ∉ put.toList := fun member =>
    different (on entry (by simpa using member))
  simpa [notOff, notOn] using same

theorem Step.count_riders_other (step : Step table context traffic happening traffic')
    {other : AgentId} (different : other ≠ happening.agent) :
    traffic'.roads.riders.count other = traffic.roads.riders.count other := by
  obtain ⟨taken, put, perm, off, on⟩ := step.fleet
  have unlisted {entries : Option (LinkId × Vehicle α)}
      (own : ∀ entry ∈ entries, entry.2.agent = happening.agent) :
      (entries.toList.map (·.2.agent)).count other = 0 := by
    refine List.count_eq_zero.mpr fun member => ?_
    obtain ⟨entry, listed, rfl⟩ := List.mem_map.mp member
    exact different (own entry (by simpa using listed))
  have same := (perm.map (·.2.agent)).count_eq other
  rw [List.map_append, List.map_append, List.count_append, List.count_append, unlisted off,
    unlisted on, Nat.zero_add, Nat.zero_add] at same
  exact same

end Traffic

end MixedTraffic

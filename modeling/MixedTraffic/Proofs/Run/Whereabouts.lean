import Mathlib.Data.List.Nodup
import MixedTraffic.Proofs.Calendar
import MixedTraffic.Proofs.Run.Frame

namespace MixedTraffic

variable {α : Type}

/-! Every agent is in one place: it has yet to depart, is on one link, or has ended its
trip. The trip, the calendar and the queues agree on which it is. -/

inductive Place where
  | pending
  | enRoute
  | finished
deriving DecidableEq

/-- What being in a place means to an agent on the roads, among those that have yet to
depart. -/
def Roads.Shows (roads : Roads α) (pending : List AgentId) (id : AgentId) (trip : Trip) :
    Place → Prop
  | .pending => trip.IsPending ∧ pending.count id = 1 ∧ roads.riders.count id = 0
  | .enRoute => pending.count id = 0 ∧ roads.riders.count id = 1 ∧
      ∃ link step vehicle, trip = ⟨.moving link step, none⟩ ∧ vehicle.agent = id ∧
        (link, vehicle) ∈ roads.fleet
  | .finished => trip.IsOver ∧ pending.count id = 0 ∧ roads.riders.count id = 0

structure Traffic.Placed (traffic : Traffic α) (pending : List AgentId) : Prop where
  labelled : traffic.roads.Labelled
  shown : ∀ {id agent}, traffic.population.get? id = some agent →
    ∃ place, traffic.roads.Shows pending id agent.trip place
  known : ∀ {id}, id ∈ pending ∨ id ∈ traffic.roads.riders →
    (traffic.population.get? id).isSome

namespace Happening

/-- The agents still to depart, the agent of a departure that is settled being gone. -/
def settle (happening : Happening) (pending : List AgentId) : List AgentId :=
  match happening with
  | departed agent _ | skipped agent | gaveUp agent _ => pending.erase agent
  | _ => pending

theorem count_settle_other {happening : Happening} {other : AgentId}
    (different : other ≠ happening.agent) (pending : List AgentId) :
    (happening.settle pending).count other = pending.count other := by
  cases happening <;> first | rfl | exact List.count_erase_of_ne different

theorem mem_of_mem_settle {happening : Happening} {pending : List AgentId} {id : AgentId}
    (member : id ∈ happening.settle pending) : id ∈ pending := by
  cases happening <;> first | exact member | exact List.mem_of_mem_erase member

end Happening

namespace Roads

variable {roads roads' : Roads α} {pending pending' : List AgentId} {id : AgentId}
  {trip trip' : Trip} {place : Place}

theorem count_riders_cons {entry : LinkId × Vehicle α}
    (perm : roads'.fleet.Perm (entry :: roads.fleet)) (own : entry.2.agent = id) :
    roads'.riders.count id = roads.riders.count id + 1 := by
  have riders := (perm.map (·.2.agent)).count_eq id
  rw [List.map_cons, own, List.count_cons_self] at riders
  exact riders

theorem eq_of_count_riders {entry other : LinkId × Vehicle α}
    (once : roads.riders.count id = 1) (member : entry ∈ roads.fleet)
    (own : entry.2.agent = id) (member' : other ∈ roads.fleet) (own' : other.2.agent = id) :
    entry = other := by
  obtain ⟨ahead, behind, split⟩ := List.append_of_mem member
  rw [riders, split, List.map_append, List.map_cons, own, List.count_append,
    List.count_cons_self] at once
  rw [split, List.mem_append, List.mem_cons] at member'
  obtain before | rfl | after := member'
  · have one := List.count_pos_iff.mpr (List.mem_map_of_mem (f := (·.2.agent)) before)
    rw [own'] at one
    omega
  · rfl
  · have one := List.count_pos_iff.mpr (List.mem_map_of_mem (f := (·.2.agent)) after)
    rw [own'] at one
    omega

theorem Shows.pending_of_wait {now : Tick} (shows : roads.Shows pending id trip place)
    (waits : trip.act? (.wait now) = some trip') :
    trip.IsPending ∧ (∃ since, trip' = ⟨.waiting since, none⟩) ∧ pending.count id = 1 ∧
      roads.riders.count id = 0 := by
  cases place with
  | pending =>
      obtain ⟨isPending, listed, off⟩ := shows
      obtain ⟨since, acts⟩ := isPending.act?_wait now
      rw [acts] at waits
      cases waits
      exact ⟨isPending, ⟨since, rfl⟩, listed, off⟩
  | enRoute =>
      obtain ⟨-, -, link, step, vehicle, moving, -⟩ := shows
      rw [moving] at waits
      cases waits
  | finished =>
      rw [shows.1.act?_eq_none] at waits
      cases waits

theorem Shows.pending_of_skip (shows : roads.Shows pending id trip place)
    (skips : trip.act? .skip = some trip') :
    trip.IsPending ∧ trip' = ⟨.inactive, some .skipped⟩ ∧ pending.count id = 1 ∧
      roads.riders.count id = 0 := by
  cases place with
  | pending =>
      obtain ⟨isPending, listed, off⟩ := shows
      rw [isPending.act?_skip] at skips
      cases skips
      exact ⟨isPending, rfl, listed, off⟩
  | enRoute =>
      obtain ⟨-, -, link, step, vehicle, moving, -⟩ := shows
      rw [moving] at skips
      cases skips
  | finished =>
      rw [shows.1.act?_eq_none] at skips
      cases skips

theorem Shows.enRoute_of_mem (shows : roads.Shows pending id trip place)
    {entry : LinkId × Vehicle α} (member : entry ∈ roads.fleet) (own : entry.2.agent = id) :
    (∃ step, trip = ⟨.moving entry.1 step, none⟩) ∧ pending.count id = 0 ∧
      roads.riders.count id = 1 := by
  have rides : roads.riders.count id ≠ 0 := by
    intro uncounted
    apply List.count_eq_zero.mp uncounted
    exact List.mem_map.mpr ⟨entry, member, own⟩
  cases place with
  | pending => exact absurd shows.2.2 rides
  | enRoute =>
      obtain ⟨listed, once, link, step, vehicle, moving, own', member'⟩ := shows
      have same := eq_of_count_riders once member own member' own'
      exact ⟨⟨step, by rw [same]; exact moving⟩, listed, once⟩
  | finished => exact absurd shows.2.2 rides

theorem Shows.congr (shows : roads.Shows pending id trip place)
    (listed : pending'.count id = pending.count id)
    (rides : roads'.riders.count id = roads.riders.count id)
    (same : ∀ entry ∈ roads.fleet, entry.2.agent = id → entry ∈ roads'.fleet) :
    roads'.Shows pending' id trip place := by
  cases place with
  | pending => exact ⟨shows.1, listed.trans shows.2.1, rides.trans shows.2.2⟩
  | enRoute =>
      obtain ⟨unlisted, once, link, step, vehicle, moving, own, member⟩ := shows
      exact ⟨listed.trans unlisted, rides.trans once, link, step, vehicle, moving, own,
        same _ member own⟩
  | finished => exact ⟨shows.1, listed.trans shows.2.1, rides.trans shows.2.2⟩

theorem Like.count_riders (like : roads'.Like roads) (id : AgentId) :
    roads'.riders.count id = roads.riders.count id :=
  (List.Perm.map (fun entry : LinkId × Vehicle α => entry.2.agent) like.fleet).count_eq id

end Roads

theorem count_erase_once {pending : List AgentId} {id : AgentId}
    (once : pending.count id = 1) : (pending.erase id).count id = 0 := by
  rw [List.count_erase_self, once]

namespace Traffic

variable {traffic traffic' : Traffic α} {pending pending' : List AgentId}

/-- The driver of a vehicle on a link is on the move there, and nowhere else. -/
theorem Placed.moving_of_aboard (placed : traffic.Placed pending) {link : LinkId}
    {queue : LinkQueue α} {vehicle : Vehicle α} {id : AgentId} {agent : Agent}
    (present : traffic.roads.queue? link = some queue)
    (aboard : queue.vehicles.find? (·.agent == id) = some vehicle)
    (found : traffic.population.get? id = some agent) :
    vehicle.agent = id ∧ (∃ step, agent.trip = ⟨.moving link step, none⟩) ∧
      pending.count id = 0 ∧ traffic.roads.riders.count id = 1 := by
  obtain ⟨place, shows⟩ := placed.shown found
  have own : vehicle.agent = id := by simpa using List.find?_some aboard
  have member : (link, vehicle) ∈ traffic.roads.fleet :=
    (Roads.mem_fleet placed.labelled).mpr ⟨queue, present, List.mem_of_find?_eq_some aboard⟩
  exact ⟨own, shows.enRoute_of_mem member own⟩

theorem Placed.of_perm (placed : traffic.Placed pending) (perm : pending'.Perm pending)
    (like : traffic'.roads.Like traffic.roads)
    (population : traffic'.population = traffic.population) : traffic'.Placed pending' := by
  refine ⟨like.labelled placed.labelled, ?_, ?_⟩
  · intro id agent found
    rw [population] at found
    obtain ⟨place, shows⟩ := placed.shown found
    exact ⟨place, shows.congr (perm.count_eq id) (like.count_riders id) fun entry member _ =>
      like.fleet.mem_iff.mpr member⟩
  · intro id listed
    rw [population]
    refine placed.known (listed.imp perm.mem_iff.mp fun rides => ?_)
    exact ((like.fleet.map _).mem_iff).mp rides

variable [Quantity α] {table : ModeTable α} {context : RouteContext} {happening : Happening}
  {happenings : List Happening}

/-- The agent of a happening is in its new place. -/
theorem Placed.shown_self (placed : traffic.Placed pending)
    (step : Step table context traffic happening traffic') {member : Agent}
    (found' : traffic'.population.get? happening.agent = some member) :
    ∃ place, traffic'.roads.Shows (happening.settle pending) happening.agent member.trip
      place := by
  have whole := step
  cases step with
  | @departed id link agent _ _ queue vehicle seeping _ found _ _ waits present built _ acts =>
      obtain ⟨place, shows⟩ := placed.shown found
      obtain ⟨-, ⟨since, rfl⟩, listed, off⟩ := shows.pending_of_wait waits
      cases acts
      cases (Population.get?_set_self found _).symm.trans found'
      have joined := Roads.fleet_holding present (queue.stamped vehicle context.now seeping)
      have own := Vehicle.agent_of_new? built
      have label := placed.labelled link queue present
      have rides := Roads.count_riders_cons joined own
      refine ⟨.enRoute, count_erase_once listed, by rw [off] at rides; exact rides, link, 0,
        queue.stamped vehicle context.now seeping, rfl, own, ?_⟩
      exact joined.mem_iff.mpr (by rw [label]; exact List.mem_cons_self)
  | skipped found stays acts =>
      obtain ⟨place, shows⟩ := placed.shown found
      obtain ⟨-, rfl, listed, off⟩ := shows.pending_of_skip acts
      cases (Population.get?_set_self found _).symm.trans found'
      exact ⟨.finished, ⟨rfl, rfl⟩, count_erase_once listed, off⟩
  | turnedAway found departs first waits =>
      obtain ⟨place, shows⟩ := placed.shown found
      obtain ⟨-, ⟨since, rfl⟩, listed, off⟩ := shows.pending_of_wait waits
      cases (Population.get?_set_self found _).symm.trans found'
      exact ⟨.pending, ⟨rfl, .inr ⟨since, rfl⟩⟩, listed, off⟩
  | gaveUp found departs first waits present built full impatient acts =>
      obtain ⟨place, shows⟩ := placed.shown found
      obtain ⟨-, ⟨since, rfl⟩, listed, off⟩ := shows.pending_of_wait waits
      cases acts
      cases (Population.get?_set_self found _).symm.trans found'
      exact ⟨.finished, ⟨rfl, rfl⟩, count_erase_once listed, off⟩
  | @transferred id source target agent _ queue next vehicle seeping _ present aboard reached _
      found acts =>
      obtain ⟨own, ⟨step, moving⟩, listed, once⟩ := placed.moving_of_aboard present aboard found
      rw [moving] at acts
      cases acts
      cases (Population.get?_set_self found _).symm.trans found'
      have released : (traffic.roads.setQueue source (queue.releasing vehicle true)).Labelled :=
        placed.labelled.setQueue present rfl
      have label := released target next reached
      have left := Roads.count_riders_cons (Roads.fleet_releasing present aboard true) own
      have joined := Roads.fleet_holding reached (next.stamped vehicle context.now seeping)
      have rides := Roads.count_riders_cons joined own
      refine ⟨.enRoute, listed, rides.trans (left.symm.trans once), target, step + 1,
        next.stamped vehicle context.now seeping, rfl, own, ?_⟩
      exact joined.mem_iff.mpr (by rw [label]; exact List.mem_cons_self)
  | arrived present aboard found acts completes =>
      obtain ⟨own, ⟨step, moving⟩, listed, once⟩ := placed.moving_of_aboard present aboard found
      rw [moving] at acts
      cases acts
      cases completes
      cases (Population.get?_set_self found _).symm.trans found'
      have left := Roads.count_riders_cons (Roads.fleet_releasing present aboard true) own
      exact ⟨.finished, ⟨rfl, rfl⟩, listed, Nat.succ.inj (left.symm.trans once)⟩
  | removed present aboard found acts =>
      obtain ⟨own, ⟨step, moving⟩, listed, once⟩ := placed.moving_of_aboard present aboard found
      rw [moving] at acts
      cases acts
      cases (Population.get?_set_self found _).symm.trans found'
      have left := Roads.count_riders_cons (Roads.fleet_releasing present aboard false) own
      exact ⟨.finished, ⟨rfl, rfl⟩, listed, Nat.succ.inj (left.symm.trans once)⟩
  | heldUp present =>
      obtain ⟨place, shows⟩ := placed.shown found'
      have like := whole.like_of_heldUp.1
      exact ⟨place, shows.congr rfl (like.count_riders _) fun entry member _ =>
        like.fleet.mem_iff.mpr member⟩

theorem Placed.step (placed : traffic.Placed pending)
    (step : Step table context traffic happening traffic') :
    traffic'.Placed (happening.settle pending) := by
  refine ⟨step.labelled placed.labelled, ?_, ?_⟩
  · intro id member found
    by_cases own : id = happening.agent
    · subst own
      exact placed.shown_self step found
    · rw [step.get?_other own] at found
      obtain ⟨place, shows⟩ := placed.shown found
      refine ⟨place, shows.congr (Happening.count_settle_other own pending)
        (step.count_riders_other own) fun entry member same => ?_⟩
      exact (step.mem_fleet_other (same ▸ own)).mpr member
  · intro id listed
    rw [Population.isSome_get?, step.size, ← Population.isSome_get?]
    by_cases own : id = happening.agent
    · subst own
      obtain ⟨id, link, rfl⟩ | known := step.known
      · have like := step.like_of_heldUp.1
        refine placed.known (listed.imp Happening.mem_of_mem_settle fun rides => ?_)
        exact ((like.fleet.map _).mem_iff).mp rides
      · exact known
    · refine placed.known (listed.imp Happening.mem_of_mem_settle fun rides => ?_)
      rw [← List.count_pos_iff, step.count_riders_other own, List.count_pos_iff] at rides
      exact rides

theorem Placed.steps (placed : traffic.Placed pending)
    (steps : Steps table context traffic happenings traffic') :
    traffic'.Placed (happenings.foldl (fun pending happening => happening.settle pending)
      pending) := by
  induction steps generalizing pending with
  | nil => exact placed
  | cons step _ ih => exact ih (placed.step step)

end Traffic

namespace Happening

variable {happenings : List Happening} {pending rest : List AgentId}

theorem settle_departures {outcomes : List (AgentId × DepartureOutcome)}
    (named : happenings.map departure? = outcomes.map some)
    (due : pending.Perm (outcomes.map (·.1) ++ rest)) :
    (happenings.foldl (fun pending happening => happening.settle pending) pending).Perm
      ((outcomes.filter (·.2 = .turnedAway)).map (·.1) ++ rest) := by
  induction outcomes generalizing happenings pending rest with
  | nil =>
      obtain rfl := List.map_eq_nil_iff.mp named
      exact due
  | cons outcome others ih =>
      cases happenings with
      | nil => cases named
      | cons happening happenings =>
          obtain ⟨kind, later⟩ := List.cons.inj named
          have settled (id : AgentId) (gone : happening.settle pending = pending.erase id)
              (own : outcome.1 = id) :
              (happening.settle pending).Perm (others.map (·.1) ++ rest) := by
            rw [gone, ← own]
            simpa using due.erase outcome.1
          cases happening with
          | departed id link =>
              cases kind
              have kept := ih later (settled id rfl rfl)
              exact kept
          | skipped id =>
              cases kind
              have kept := ih later (settled id rfl rfl)
              exact kept
          | gaveUp id link =>
              cases kind
              have kept := ih later (settled id rfl rfl)
              exact kept
          | turnedAway id link =>
              cases kind
              have kept := ih later (due.trans List.perm_middle.symm)
              exact kept.trans List.perm_middle
          | transferred => cases kind
          | arrived => cases kind
          | removed => cases kind
          | heldUp => cases kind

theorem departure?_of_mem_orders {decision : NodeDecision} {happening : Happening}
    (member : happening ∈ decision.orders) : happening.departure? = none := by
  obtain moved | marked := List.mem_append.mp member
  · obtain ⟨move, -, rfl⟩ := List.mem_map.mp moved
    cases move <;> rfl
  · obtain ⟨entry, -, rfl⟩ := List.mem_map.mp marked
    rfl

theorem settle_orders (orders : ∀ happening ∈ happenings, happening.departure? = none) :
    happenings.foldl (fun pending happening => happening.settle pending) pending =
      pending := by
  induction happenings with
  | nil => rfl
  | cons happening others ih =>
      have ordered := orders happening List.mem_cons_self
      have kept : happening.settle pending = pending := by
        cases happening <;> first | rfl | cases ordered
      rw [List.foldl_cons, kept]
      exact ih fun other member => orders other (List.mem_cons_of_mem _ member)

end Happening

variable [Quantity α]

/-- Every agent is in one place, those still to depart being entered in the calendar. -/
structure World.Placed (world : World α) : Prop where
  sized : world.departures.Sized
  traffic : Traffic.Placed { roads := world.roads, population := world.population }
    world.departures.entries

namespace World.Placed

variable {world : World α}

theorem of_build {σ : Type} {setup : SimSetup α σ} {start : Sim α σ}
    (built : setup.build = .ok start) (fresh : setup.population.Fresh) :
    start.world.Placed := by
  obtain ⟨roads, opened, world⟩ := (SimSetup.build_eq_ok built).world
  have riders : roads.riders = [] := by
    rw [Roads.riders, Roads.fleet_of_ofNetwork opened, List.map_nil]
  obtain ⟨sized, entries⟩ := Calendar.ofPopulation_perm setup.population setup.config.clock
  rw [fresh.map_id] at entries
  have initial : Traffic.Placed { roads, population := setup.population }
      ((List.range setup.population.size).map Key.mk) := by
    refine ⟨Roads.labelled_of_ofNetwork opened, ?_, ?_⟩
    · intro id agent found
      refine ⟨.pending, ?_, ?_, ?_⟩
      · rw [(fresh found).2]
        exact Trip.isPending_new
      · exact List.count_eq_one_of_mem (Key.nodup_map_range _)
          (Population.mem_keys_iff.mpr (Option.isSome_of_eq_some found))
      · simp [riders]
    · intro id listed
      obtain listed | rides := listed
      · exact Population.mem_keys_iff.mp listed
      · simp [riders] at rides
  rw [world]
  exact ⟨sized, initial.of_perm entries (.refl roads) rfl⟩

theorem interval {flowPermanent : Bool} {interval : Interval α} (placed : world.Placed)
    (simulated : world.interval flowPermanent = .ok interval) : interval.next.Placed := by
  obtain ⟨course, follows, rfl⟩ := World.interval_eq_ok.mp simulated
  have revises := follows.revises
  have entries : world.departures.entries.Perm (course.outcomes.map (·.1) ++
      (course.changed.departures.drain course.changed.clock.now).2.entries) := by
    rw [follows.due, Calendar.drain_append, revises.departures]
  have before : course.changed.refilled.Placed world.departures.entries :=
    placed.traffic.of_perm (.refl _) (refilled_like follows.changed) revises.population
  have gone := Happening.settle_departures follows.named entries
  have after := before.steps follows.steps
  rw [Course.happenings, List.foldl_append, Happening.settle_orders (by
    intro happening member
    obtain ⟨decision, -, order⟩ := List.mem_flatMap.mp member
    exact Happening.departure?_of_mem_orders order)] at after
  constructor
  · have sized : course.changed.departures.Sized := revises.departures ▸ placed.sized
    exact (sized.drain _).requeue _ _
  · have kept := after.of_perm gone.symm (.refl _) rfl
    exact kept.of_perm (Calendar.requeue_perm ..) (.refl _) rfl

theorem run {history : List (Interval α)} {world' : World α} (placed : world.Placed)
    (run : World.Run world history world') : world'.Placed :=
  run.preserves World.Placed interval placed

end World.Placed

end MixedTraffic

import MixedTraffic.Proofs.Run.Accounts
import MixedTraffic.Proofs.Run.Flow
import MixedTraffic.Proofs.Run.Punctuality

namespace MixedTraffic

/-! A link that could hold the vehicles of a whole population turns nobody away. -/

namespace Population

variable {population population' : Population} {table : ModeTable Rat} {ids : List AgentId}

def load (population : Population) (table : ModeTable Rat) : Rat :=
  (population.agents.toList.map fun agent => (table.get? agent.mode).elim 0 (·.pcu)).sum

theorem load_eq_sum_pcuOf (population : Population) (table : ModeTable Rat) :
    population.load table =
      (((List.range population.size).map Key.mk).map (population.pcuOf table)).sum := by
  refine congrArg List.sum (List.ext_getElem ?_ fun index bound _ => ?_)
  · simp [size]
  · rw [List.length_map, Array.length_toList] at bound
    simp [pcuOf, get?, bound]

theorem load_congr (size : population'.size = population.size)
    (pcuOf : population'.pcuOf table = population.pcuOf table) :
    population'.load table = population.load table := by
  rw [load_eq_sum_pcuOf, load_eq_sum_pcuOf, size, pcuOf]

theorem sum_pcuOf_le_load (distinct : ids.Nodup)
    (known : ∀ id ∈ ids, (population.get? id).isSome) :
    (ids.map (population.pcuOf table)).sum ≤ population.load table := by
  have among : ids ⊆ (List.range population.size).map Key.mk := fun id listed =>
    mem_keys_iff.mpr (known id listed)
  obtain ⟨chosen, perm, part⟩ := List.subperm_of_subset distinct among
  rw [load_eq_sum_pcuOf, ← (perm.map _).sum_eq]
  exact (part.map _).sum_le_sum fun pcu member => by
    obtain ⟨id, -, rfl⟩ := List.mem_map.mp member
    exact population.pcuOf_nonneg table id

end Population

namespace LinkQueue

theorem sum_nonneg {vehicles : List (Vehicle Rat)}
    (positive : ∀ vehicle ∈ vehicles, 0 < vehicle.pcu) : 0 ≤ (vehicles.map (·.pcu)).sum :=
  List.sum_nonneg fun pcu member => by
    obtain ⟨vehicle, listed, rfl⟩ := List.mem_map.mp member
    exact (positive vehicle listed).le

theorem held_le_sum {vehicles : List (Vehicle Rat)} (seeping : Bool)
    (positive : ∀ vehicle ∈ vehicles, 0 < vehicle.pcu) :
    held seeping vehicles ≤ (vehicles.map (·.pcu)).sum :=
  ((List.filter_sublist ..).map _).sum_le_sum fun pcu member => by
    obtain ⟨vehicle, listed, rfl⟩ := List.mem_map.mp member
    exact (positive vehicle listed).le

end LinkQueue

namespace Rooms

variable {rooms : Rooms Rat} {link next : LinkId} {room room' : Room Rat} {vehicle : Vehicle Rat}
  {pcu pcu' : Rat}

/-- That a link has room for so many passenger-car units, if it leaves the node at all. -/
def Spares (rooms : Rooms Rat) (link : LinkId) (pcu : Rat) : Prop :=
  ∀ room, rooms.lookup link = some room → pcu ≤ room.regular + Quantity.slack

theorem Spares.mono (spares : rooms.Spares link pcu) (less : pcu' ≤ pcu) :
    rooms.Spares link pcu' :=
  fun room free => less.trans (spares room free)

theorem Spares.set (spares : rooms.Spares link (vehicle.pcu + pcu))
    (positive : 0 < vehicle.pcu) (free : rooms.lookup next = some room) {maySeep seeping : Bool}
    (taken : room.take? vehicle.pcu maySeep = some (seeping, room')) :
    (rooms.set next room').Spares link pcu := by
  intro left found
  rw [Rooms.lookup_set free] at found
  split at found
  · rename_i own
    cases found
    have enough := spares room (own ▸ free)
    obtain ⟨-, -, rfl⟩ | ⟨-, -, -, -, rfl⟩ := Room.take?_eq_some.mp taken
    · change pcu ≤ room.regular - vehicle.pcu + Quantity.slack
      linarith
    · change pcu ≤ room.regular + Quantity.slack
      linarith
  · have enough := spares left found
    linarith

end Rooms

namespace Roads

variable {roads : Roads Rat} {junction : Junction Rat} {queue : LinkQueue Rat}
  {accumulator : Rat} {held : Bool} {rooms rooms' : Rooms Rat} {vehicle : Vehicle Rat}
  {vehicles refused : List (Vehicle Rat)} {plan : LinkPlan} {source link next : LinkId}
  {room : Room Rat} {links : List LinkId} {services : List (Service Rat)} {pcu : Rat}

def burden (roads : Roads Rat) (link : LinkId) : Rat :=
  (roads.queue? link).elim 0 fun queue => (queue.vehicles.map (·.pcu)).sum

theorem burden_eq (present : roads.queue? link = some queue) :
    roads.burden link = (queue.vehicles.map (·.pcu)).sum := by
  rw [burden, present]
  rfl

theorem Accounted.burden_nonneg (accounted : roads.Accounted) (link : LinkId) :
    0 ≤ roads.burden link := by
  unfold burden
  cases present : roads.queue? link with
  | none => exact le_rfl
  | some queue => exact LinkQueue.sum_nonneg (accounted link queue present).positive

/-- What is not taken up is free, up to what seeping vehicles are held beside it. -/
theorem Accounted.storage_le_room (accounted : roads.Accounted)
    (present : roads.queue? link = some queue) :
    queue.storage ≤ queue.room.regular + roads.burden link := by
  have account := accounted link queue present
  have most := LinkQueue.held_le_sum false account.positive
  rw [← account.occupied, ← burden_eq present] at most
  rw [LinkQueue.room]
  linarith

theorem TurnsAway.not_ask (turned : roads.TurnsAway junction source rooms vehicle next room)
    (spares : rooms.Spares link vehicle.pcu) : junction.ask source vehicle ≠ .ok (some link) := by
  intro asked
  cases turned.asked.symm.trans asked
  exact (Room.take?_eq_none.mp turned.full).1 (spares room turned.free)

/-- Where there is room for all that are still to be served, nobody is turned away. -/
theorem Serves.not_ask (serves : roads.Serves junction queue accumulator held rooms vehicles plan
      refused rooms') (positive : ∀ vehicle ∈ vehicles, 0 < vehicle.pcu) (nonneg : 0 ≤ pcu)
    (spares : rooms.Spares link ((vehicles.map (·.pcu)).sum + pcu)) :
    (∀ vehicle ∈ refused, junction.ask queue.link vehicle ≠ .ok (some link)) ∧
      rooms'.Spares link pcu := by
  -- What is spared covers all vehicles not yet served, and each takes at most its own part of it.
  induction serves with
  | done | early | dry =>
      exact ⟨List.forall_mem_nil _, spares.mono (by linarith [LinkQueue.sum_nonneg positive])⟩
  | stuck _ turned | last _ turned =>
      obtain ⟨first, positive⟩ := List.forall_mem_cons.mp positive
      have others := LinkQueue.sum_nonneg positive
      rw [List.map_cons, List.sum_cons] at spares
      exact ⟨List.forall_mem_singleton.mpr (turned.not_ask (spares.mono (by linarith))),
        spares.mono (by linarith)⟩
  | behind _ _ _ ih | arrive _ _ _ ih =>
      obtain ⟨first, positive⟩ := List.forall_mem_cons.mp positive
      rw [List.map_cons, List.sum_cons] at spares
      exact ih positive (spares.mono (by linarith))
  | first _ turned _ _ _ ih | again _ turned _ ih =>
      obtain ⟨first, positive⟩ := List.forall_mem_cons.mp positive
      have others := LinkQueue.sum_nonneg positive
      rw [List.map_cons, List.sum_cons] at spares
      obtain ⟨kept, left⟩ := ih positive (spares.mono (by linarith))
      exact ⟨List.forall_mem_cons.mpr ⟨turned.not_ask (spares.mono (by linarith)), kept⟩, left⟩
  | transfer _ _ free taken _ ih =>
      obtain ⟨first, positive⟩ := List.forall_mem_cons.mp positive
      rw [List.map_cons, List.sum_cons, add_assoc] at spares
      exact ih positive (spares.set first free taken)

theorem ServesAll.not_ask (serves : roads.ServesAll junction rooms links services rooms')
    (labelled : roads.Labelled) (accounted : roads.Accounted)
    (spares : rooms.Spares link (links.map roads.burden).sum) :
    ∀ service ∈ services, ∀ vehicle ∈ service.refused,
      junction.ask service.link vehicle ≠ .ok (some link) := by
  induction serves with
  | nil => exact List.forall_mem_nil _
  | @cons _ _ _ source rest queue _ _ _ present serves _ ih =>
      have others : 0 ≤ (rest.map roads.burden).sum := List.sum_nonneg fun pcu member => by
        obtain ⟨other, -, rfl⟩ := List.mem_map.mp member
        exact accounted.burden_nonneg other
      rw [List.map_cons, List.sum_cons, burden_eq present] at spares
      obtain ⟨kept, left⟩ :=
        serves.not_ask (accounted source queue present).positive others spares
      rw [labelled source queue present] at kept
      exact List.forall_mem_cons.mpr ⟨kept, ih left⟩

end Roads

namespace Traffic

variable {table : ModeTable Rat} {context : RouteContext} {traffic traffic' : Traffic Rat}
  {happening : Happening} {happenings : List Happening} {pending : List AgentId}
  {pcuOf : AgentId → Rat} {link : LinkId} {links : List LinkId} {waiting : List AgentId}

theorem Weighs.sum_burden (weighs : traffic.Weighs table pcuOf) (labelled : traffic.roads.Labelled)
    (links : List LinkId) : (links.map traffic.roads.burden).sum =
      ((links.flatMap traffic.roads.queueing).map pcuOf).sum := by
  induction links with
  | nil => rfl
  | cons link rest ih =>
      have single : traffic.roads.burden link =
          ((traffic.roads.queueing link).map pcuOf).sum := by
        unfold Roads.burden Roads.queueing
        cases present : traffic.roads.queue? link with
        | none => rfl
        | some queue =>
            rw [Option.elim_some, Option.elim_some, List.map_map]
            refine congrArg List.sum (List.map_congr_left fun vehicle aboard => ?_)
            exact weighs.aboard link vehicle
              ((Roads.mem_fleet labelled).mpr ⟨queue, present, aboard⟩)
      rw [List.map_cons, List.sum_cons, ih, single, List.flatMap_cons, List.map_append,
        List.sum_append]

theorem Weighs.pcu_of_new? (weighs : traffic.Weighs table pcuOf) {id : AgentId} {agent : Agent}
    {vehicle : Vehicle Rat} (found : traffic.population.get? id = some agent)
    (built : Vehicle.new? table id agent.mode = some vehicle) : vehicle.pcu = pcuOf id := by
  obtain ⟨type, listed, rfl⟩ := Vehicle.new?_eq_some.mp built
  rw [← weighs.population, Population.pcuOf, found, Option.bind_some, listed]
  rfl

/-- Those still to depart and those on different links are all different agents. -/
theorem Placed.burdens_le (placed : traffic.Placed pending) (weighs : traffic.Weighs table pcuOf)
    (distinct : waiting.Nodup) (listed : ∀ id ∈ waiting, id ∈ pending) (once : links.Nodup) :
    (waiting.map pcuOf).sum + (links.map traffic.roads.burden).sum ≤
      traffic.population.load table := by
  have rides {id : AgentId} (queueing : id ∈ links.flatMap traffic.roads.queueing) :
      id ∈ traffic.roads.riders := by
    obtain ⟨link, -, here⟩ := List.mem_flatMap.mp queueing
    obtain ⟨vehicle, aboard, rfl⟩ := (Roads.mem_queueing placed.labelled).mp here
    exact List.mem_map_of_mem (f := (·.2.agent)) aboard
  have apart : (waiting ++ links.flatMap traffic.roads.queueing).Nodup := by
    refine List.nodup_append.mpr ⟨distinct,
      Roads.nodup_queueing placed.labelled placed.nodup_riders once, ?_⟩
    rintro id waits _ queueing rfl
    obtain ⟨agent, found⟩ := Option.isSome_iff_exists.mp (placed.known (.inl (listed id waits)))
    obtain ⟨place, shows⟩ := placed.shown found
    obtain ⟨entry, aboard, own⟩ := List.mem_map.mp (rides queueing)
    exact List.count_eq_zero.mp (shows.enRoute_of_mem aboard own).2.1 (listed id waits)
  have known : ∀ id ∈ waiting ++ links.flatMap traffic.roads.queueing,
      (traffic.population.get? id).isSome := by
    intro id member
    exact placed.known ((List.mem_append.mp member).imp (listed id) rides)
  rw [weighs.sum_burden placed.labelled, ← List.sum_append, ← List.map_append,
    ← weighs.population]
  exact Population.sum_pcuOf_le_load apart known

/-- That a link could hold everybody. -/
structure Ample (traffic : Traffic Rat) (table : ModeTable Rat) (link : LinkId) : Prop where
  weighs : ∃ pcuOf, traffic.Weighs table pcuOf
  accounted : traffic.roads.Accounted
  enough : ∀ queue, traffic.roads.queue? link = some queue →
    traffic.population.load table ≤ queue.storage + Quantity.slack

namespace Ample

theorem of_like (ample : traffic.Ample table link) (like : traffic'.roads.Like traffic.roads)
    (population : traffic'.population = traffic.population) : traffic'.Ample table link := by
  obtain ⟨⟨pcuOf, own, aboard⟩, accounted, enough⟩ := ample
  refine ⟨⟨pcuOf, population ▸ own, fun link vehicle member =>
    aboard link vehicle (like.fleet.mem_iff.mp member)⟩, accounted.of_like like, ?_⟩
  intro queue' present
  obtain ⟨queue, found, same⟩ := like.queues link queue' present
  have storage : queue'.storage = queue.storage := congrArg Site.storage same.site
  rw [storage, population]
  exact enough queue found

theorem step (ample : traffic.Ample table link) (labelled : traffic.roads.Labelled)
    (step : Step table context traffic happening traffic') : traffic'.Ample table link := by
  obtain ⟨⟨pcuOf, weighs⟩, accounted, enough⟩ := ample
  refine ⟨⟨pcuOf, weighs.step labelled step⟩, accounted.step step, fun queue' present => ?_⟩
  obtain ⟨queue, found, site⟩ := Roads.site_eq_of_sites step.sites present
  have storage : queue'.storage = queue.storage := congrArg Site.storage site
  rw [storage, Population.load_congr step.size step.pcuOf_eq]
  exact enough queue found

theorem steps (ample : traffic.Ample table link) (labelled : traffic.roads.Labelled)
    (steps : Steps table context traffic happenings traffic') : traffic'.Ample table link :=
  (steps.preserves (fun traffic => traffic.roads.Labelled ∧ traffic.Ample table link)
    (fun held step => ⟨step.labelled held.1, held.2.step held.1 step⟩) ⟨labelled, ample⟩).2

theorem not_refused (ample : traffic.Ample table link) (placed : traffic.Placed pending)
    (step : Step table context traffic happening traffic') (id : AgentId) :
    happening ≠ .turnedAway id link ∧ happening ≠ .gaveUp id link := by
  obtain ⟨⟨pcuOf, weighs⟩, accounted, enough⟩ := ample
  have never {agent : Agent} {waiting : Trip} {queue : LinkQueue Rat} {vehicle : Vehicle Rat}
      (found : traffic.population.get? id = some agent)
      (waits : agent.trip.act? (.wait context.now) = some waiting)
      (present : traffic.roads.queue? link = some queue)
      (built : Vehicle.new? table id agent.mode = some vehicle)
      (full : queue.room.take? vehicle.pcu (traffic.roads.seeps agent.mode) = none) : False := by
    obtain ⟨place, shows⟩ := placed.shown found
    obtain ⟨-, -, once, -⟩ := shows.pending_of_wait waits
    have due : id ∈ pending := List.count_pos_iff.mp (once ▸ Nat.one_pos)
    have pcu := weighs.pcu_of_new? found built
    have all := placed.burdens_le weighs (List.nodup_singleton id)
      (List.forall_mem_singleton.mpr due) (List.nodup_singleton link)
    simp only [List.map_singleton, List.sum_singleton] at all
    refine (Room.take?_eq_none.mp full).1 ?_
    linarith [enough queue present, accounted.storage_le_room present]
  constructor
  · rintro rfl
    cases step with
    | turnedAway found _ _ waits present built full => exact never found waits present built full
  · rintro rfl
    cases step with
    | gaveUp found _ _ waits present built full => exact never found waits present built full

theorem forall_not_refused (ample : traffic.Ample table link) (placed : traffic.Placed pending)
    (steps : Steps table context traffic happenings traffic') (id : AgentId) :
    .turnedAway id link ∉ happenings ∧ .gaveUp id link ∉ happenings := by
  induction steps generalizing pending with
  | nil => exact ⟨List.not_mem_nil, List.not_mem_nil⟩
  | cons step _ ih =>
      obtain ⟨turned, gone⟩ := ample.not_refused placed step id
      obtain ⟨others, others'⟩ := ih (ample.step placed.labelled step) (placed.step step)
      exact ⟨List.not_mem_cons_of_ne_of_not_mem turned.symm others,
        List.not_mem_cons_of_ne_of_not_mem gone.symm others'⟩

/-- There is room for all vehicles that may come onto the link. -/
theorem not_ask (ample : traffic.Ample table link) (placed : traffic.Placed pending)
    {network : Network Rat} {node : NodeId} {services : List (Service Rat)} {secs : Nat}
    (sound : network.Sound) (mirrors : traffic.roads.Mirrors secs network)
    (attends : traffic.roads.Attends network traffic.population context node services)
    (straight : ∀ attributes, network.link? link = some attributes →
      attributes.start ≠ attributes.finish) :
    ∀ service ∈ services, ∀ vehicle ∈ service.refused,
      Roads.Junction.ask ⟨node, network, traffic.population, context⟩ service.link vehicle ≠
        .ok (some link) := by
  obtain ⟨⟨pcuOf, weighs⟩, accounted, enough⟩ := ample
  obtain ⟨outgoing, inbound, rooms, rooms', leaving, coming, opened, serves⟩ := attends
  refine serves.not_ask placed.labelled accounted fun room free => ?_
  rw [Roads.lookup_of_roomsOf opened] at free
  split at free
  · rename_i listed
    obtain ⟨queue, present, rfl⟩ := Option.map_eq_some_iff.mp free
    obtain ⟨attributes, found, start⟩ := (sound.mem_outgoing leaving).mp listed
    have served := mirrors.inbound node
    rw [coming] at served
    generalize filed : network.incoming? node = row at served
    cases served with
    | some perm =>
        -- The vehicles on the link itself come to another node.
        have apart : link ∉ inbound := by
          intro member
          obtain ⟨again, found', finish⟩ :=
            (sound.mem_incoming filed).mp (perm.mem_iff.mp member)
          cases found.symm.trans found'
          exact straight attributes found (start.trans finish.symm)
        have once := List.nodup_cons.mpr
          ⟨apart, perm.nodup_iff.mpr (sound.nodup_incoming filed)⟩
        have all := placed.burdens_le weighs List.nodup_nil (List.forall_mem_nil _) once
        rw [List.map_nil, List.sum_nil, List.map_cons, List.sum_cons] at all
        linarith [enough queue present, accounted.storage_le_room present]
  · cases free

end Ample

theorem Steps.firstLink?_of_gaveUp {α : Type} [Quantity α] {table : ModeTable α}
    {traffic traffic' : Traffic α} {id : AgentId}
    (steps : Steps table context traffic happenings traffic')
    (gaveUp : .gaveUp id link ∈ happenings) :
    ∃ agent, traffic.population.get? id = some agent ∧
      agent.driver.firstLink? id context = some link := by
  induction steps with
  | nil => cases gaveUp
  | cons step _ ih =>
      obtain rfl | later := List.mem_cons.mp gaveUp
      · cases step with
        | gaveUp found _ first => exact ⟨_, found, first⟩
      · obtain ⟨agent, found, first⟩ := ih later
        obtain ⟨old, present, -, driver, -⟩ :=
          Population.exists_of_unbegun found (step.unbegun id)
        exact ⟨old, present, driver ▸ first⟩

end Traffic

/-- That an agent finds no room on a link as it departs. -/
def Passage.Rejects {α : Type} [Quantity α] (passage : Passage α) (link : LinkId)
    (id : AgentId) : Prop :=
  .turnedAway id link ∈ passage.course.departures ∨ .gaveUp id link ∈ passage.course.departures

/-- That an agent finds no room on a link, as it departs or on its way from another link. -/
inductive Passage.Refuses {α : Type} [Quantity α] (passage : Passage α) (link : LinkId)
    (id : AgentId) : Prop where
  | departing (rejected : passage.Rejects link id) : Refuses passage link id
  | coming {service : Service α} {vehicle : Vehicle α} {agent : Agent}
      (listed : service ∈ passage.services) (turned : vehicle ∈ service.refused)
      (own : vehicle.agent = id)
      (found : passage.course.midway.population.get? id = some agent)
      (asks : agent.driver.nextLink? id service.link agent.trip.state.step
        (passage.course.changed.context passage.flowPermanent) = some link) :
      Refuses passage link id

namespace World

variable {world world' : World Rat} {table : ModeTable Rat} {link : LinkId}

/-- That through a run a link could hold everybody. -/
structure Ample (world : World Rat) (table : ModeTable Rat) (link : LinkId) : Prop where
  rated : world.table = table
  traffic : Traffic.Ample { roads := world.roads, population := world.population } table link

theorem Ample.of_build {σ : Type} {setup : SimSetup Rat σ} {start : Sim Rat σ}
    (built : setup.build = .ok start) {attributes : Link Rat}
    (known : setup.network.link? link = some attributes)
    (enough : setup.population.load setup.table ≤
      attributes.storageFor setup.dynamics.cell + Quantity.slack) :
    start.world.Ample setup.table link := by
  obtain ⟨roads, opened, world⟩ := (SimSetup.build_eq_ok built).world
  rw [world]
  refine ⟨rfl, ⟨_, rfl, fun link vehicle member => ?_⟩, Roads.accounted_ofNetwork opened, ?_⟩
  · rw [Roads.fleet_of_ofNetwork opened] at member
    cases member
  · intro queue present
    rw [Roads.queue?_of_ofNetwork opened, known] at present
    cases present
    refine enough.trans (add_le_add_left ?_ _)
    exact Quantity.le_larger_left _ _

theorem Ample.refilled (ample : world.Ample table link) (made : world.applyChanges = .ok world') :
    world'.refilled.Ample table link :=
  ample.traffic.of_like (refilled_like made) (applyChanges_revises made).population

theorem Ample.interval {flowPermanent : Bool} {interval : Interval Rat}
    (ample : world.Ample table link) (placed : world.Placed)
    (simulated : world.interval flowPermanent = .ok interval) :
    interval.next.Ample table link := by
  obtain ⟨course, follows, rfl⟩ := interval_eq_ok.mp simulated
  have rated : course.changed.table = table := follows.revises.table.trans ample.rated
  have labelled := (refilled_like follows.changed).labelled placed.traffic.labelled
  have final := (ample.refilled follows.changed).steps labelled (rated ▸ follows.steps)
  exact ⟨rated, final.of_like (.refl _) rfl⟩

theorem Ample.run {history : List (Interval Rat)} (ample : world.Ample table link)
    (placed : world.Placed) (run : World.Run world history world') :
    world'.Ample table link := by
  have both := run.preserves (fun world => world.Placed ∧ world.Ample table link)
    (fun held simulated => ⟨held.1.interval simulated, held.2.interval held.1 simulated⟩)
    ⟨placed, ample⟩
  exact both.2

end World

/-- A link that could hold the vehicles of the whole population never turns anybody away. -/
theorem Sim.Run.not_refuses {σ : Type} {setup : SimSetup Rat σ} {start sim : Sim Rat σ}
    {history : List (Interval Rat)} {roads : NetworkDraft Rat}
    (connected : roads.build = .ok setup.network) (fresh : setup.population.Fresh)
    (built : setup.build = .ok start) (run : Sim.Run start history sim) {link : LinkId}
    {attributes : Link Rat} (known : setup.network.link? link = some attributes)
    (straight : attributes.start ≠ attributes.finish)
    (enough : setup.population.load setup.table ≤
      attributes.storageFor setup.dynamics.cell + Quantity.slack)
    {passage : Passage Rat} (next : passage.world = sim.world) (id : AgentId) :
    ¬passage.Refuses link id := by
  have sound := Network.sound_of_build connected
  have placed := World.Placed.of_build built fresh
  have regular := (World.Regular.of_build built fresh).run run.world
  have ample := (World.Ample.of_build built known enough).run placed run.world
  rw [← next] at regular ample
  have rated : passage.course.changed.table = setup.table :=
    passage.follows.revises.table.trans ample.rated
  have before := Passage.placed regular
  have departed := rated ▸ passage.follows.departed
  have opened := ample.refilled passage.follows.changed
  obtain ⟨turned, gaveUp⟩ := opened.forall_not_refused before departed id
  rintro ((again | forGood) | @⟨service, vehicle, agent, listed, refused, own, found, asks⟩)
  · exact turned again
  · exact gaveUp forGood
  · obtain ⟨node, services, attends, here⟩ :=
      Roads.exists_attends_of_mem passage.attends listed
    obtain ⟨pending, midway⟩ := Passage.placed_midway regular
    refine (opened.steps before.labelled departed).not_ask midway (passage.sound regular sound)
      (Passage.mirrors_midway regular) attends ?_ service here vehicle refused ?_
    · intro attributes' there
      obtain ⟨old, first, start, finish⟩ :=
        (regular.charted.changed passage.follows.changed).alike.link? there
      cases known.symm.trans first
      rwa [← start, ← finish]
    · subst own
      exact Roads.ask_eq_ok.mpr ⟨agent, found, asks⟩

theorem Sim.Run.firstLink?_of_gaveUp {α σ : Type} [Quantity α] {setup : SimSetup α σ}
    {start sim : Sim α σ} {history : List (Interval α)} (built : setup.build = .ok start)
    (run : Sim.Run start history sim) {passage : Passage α} (next : passage.world = sim.world)
    {id : AgentId} {link : LinkId} (gaveUp : .gaveUp id link ∈ passage.course.departures) :
    ∃ agent context, setup.population.get? id = some agent ∧
      agent.driver.firstLink? id context = some link := by
  obtain ⟨_, -, world⟩ := (SimSetup.build_eq_ok built).world
  obtain ⟨agent, found, first⟩ := passage.follows.departed.firstLink?_of_gaveUp gaveUp
  change passage.course.changed.population.get? id = some agent at found
  rw [passage.follows.revises.population, next] at found
  obtain ⟨old, present, -, driver, -⟩ :=
    Population.exists_of_unbegun found (run.world.unbegun id)
  rw [world] at present
  exact ⟨old, _, present, driver ▸ first⟩

end MixedTraffic

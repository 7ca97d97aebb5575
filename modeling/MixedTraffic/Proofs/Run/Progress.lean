import MixedTraffic.Proofs.Road.Promise
import MixedTraffic.Proofs.Run.Accounts
import MixedTraffic.Proofs.Run.Itinerary

namespace MixedTraffic

/-! What the nodes have decided can be carried out. Every vehicle that is to move is still
where it was, and the one thing that may be missing is room on the link that it goes to. -/

namespace Happening

/-- The move that is carried out. -/
def move? : Happening → Option Move
  | transferred agent source target => some (.transfer source agent target)
  | arrived agent link => some (.arrive link agent)
  | removed agent link => some (.stuck link agent)
  | _ => none

@[simp] theorem move?_ofMove (move : Move) : (ofMove move).move? = some move := by
  cases move <;> rfl

end Happening

theorem NodeDecision.moves_orders (decision : NodeDecision) :
    decision.orders.filterMap Happening.move? = decision.moves := by
  have moved : (decision.moves.map .ofMove).filterMap Happening.move? = decision.moves := by
    simp [List.filterMap_map]
  have marked : (decision.blocked.map .ofMark).filterMap Happening.move? = [] := by
    rw [List.filterMap_map, List.filterMap_eq_nil_iff]
    intro entry _
    rfl
  rw [orders, List.filterMap_append, moved, marked, List.append_nil]

namespace Traffic

section Ready

variable {α : Type} {network : Network α} {context : RouteContext}
  {traffic traffic' before : Traffic α} {tickSecs : Nat} {pending : List AgentId}
  {happening : Happening} {done orders : List Happening}

/-- That orders given `before` are still to be carried out: their agents are as they were. -/
structure Ready (traffic before : Traffic α) (network : Network α) (tickSecs : Nat)
    (pending : List AgentId) (orders : List Happening) : Prop where
  placed : traffic.Placed pending
  mirrors : traffic.roads.Mirrors tickSecs network
  distinct : (orders.filterMap Happening.touched?).Nodup
  untouched : ∀ id ∈ orders.filterMap Happening.touched?, traffic.Untouched before id

/-- What is known of an order when it is given: a move has its grounds, and whoever is held up
is so on a link that exists. -/
def Warranted (before : Traffic α) (network : Network α) (context : RouteContext)
    (happening : Happening) : Prop :=
  (∃ id link, happening = .heldUp id link ∧ (network.link? link).isSome) ∨
    ∃ move vehicle agent, happening = .ofMove move ∧
      before.roads.Grounds network before.population context move vehicle agent

namespace Ready

variable {move : Move} {vehicle : Vehicle α} {agent : Agent}

theorem untouched_self
    (ready : traffic.Ready before network tickSecs pending (.ofMove move :: orders)) :
    traffic.Untouched before move.agent := by
  apply ready.untouched
  rw [List.filterMap_cons_some (Happening.touched?_ofMove move)]
  exact List.mem_cons_self

/-- The vehicle that is to move is found on its link, and its agent is on the way. -/
theorem aboard
    (ready : traffic.Ready before network tickSecs pending (.ofMove move :: orders))
    (grounds : before.roads.Grounds network before.population context move vehicle agent) :
    ∃ queue step, traffic.roads.queue? move.source = some queue ∧ vehicle ∈ queue.vehicles ∧
      queue.vehicles.find? (·.agent == move.agent) = some vehicle ∧
      traffic.population.get? move.agent = some agent ∧
      agent.trip = ⟨.moving move.source step, none⟩ := by
  have untouched := ready.untouched_self
  have aboard := (untouched.vehicle grounds.own).mpr grounds.aboard
  have found := untouched.agent.trans grounds.found
  obtain ⟨place, shows⟩ := ready.placed.shown found
  obtain ⟨⟨step, moving⟩, -⟩ := shows.enRoute_of_mem aboard grounds.own
  obtain ⟨queue, present, listed, find⟩ := ready.placed.find?_of_mem aboard
  rw [grounds.own] at find
  exact ⟨queue, step, present, listed, find, found, moving⟩

variable [Quantity α] {table : ModeTable α}

theorem step (ready : traffic.Ready before network tickSecs pending (happening :: orders))
    (step : Step table context traffic happening traffic') :
    traffic'.Ready before network tickSecs (happening.settle pending) orders := by
  have distinct := ready.distinct
  have untouched := ready.untouched
  refine ⟨ready.placed.step step, step.mirrors ready.mirrors, ?_, ?_⟩
  · cases own : happening.touched? with
    | none =>
        rw [List.filterMap_cons_none own] at distinct
        exact distinct
    | some id =>
        rw [List.filterMap_cons_some own] at distinct
        exact (List.nodup_cons.mp distinct).2
  · intro id later
    cases own : happening.touched? with
    | none =>
        rw [List.filterMap_cons_none own] at untouched
        exact (untouched id later).step (by simp [own]) step
    | some other =>
        rw [List.filterMap_cons_some own] at distinct untouched
        refine (untouched id (List.mem_cons_of_mem _ later)).step (fun same => ?_) step
        rw [own] at same
        cases same
        exact (List.nodup_cons.mp distinct).1 later

theorem steps (ready : traffic.Ready before network tickSecs pending (done ++ orders))
    (steps : Steps table context traffic done traffic') :
    ∃ pending, traffic'.Ready before network tickSecs pending orders := by
  induction steps generalizing pending with
  | nil => exact ⟨pending, ready⟩
  | cons step _ ih => exact ih (ready.step step)

/-- Nothing but a transfer can fail any more once the vehicle is found. -/
theorem exists_step_of_stays (table : ModeTable α)
    (ready : traffic.Ready before network tickSecs pending (.ofMove move :: orders))
    (grounds : before.roads.Grounds network before.population context move vehicle agent)
    (stays : move.target? = none) :
    ∃ queue movesOn, traffic.roads.queue? move.source = some queue ∧
      vehicle ∈ queue.vehicles ∧
      ∃ traffic', Step table context traffic (.ofMove move) traffic' ∧
        traffic'.roads =
          traffic.roads.setQueue move.source (queue.releasing vehicle movesOn) := by
  obtain ⟨queue, step, present, listed, find, found, moving⟩ := ready.aboard grounds
  cases move with
  | transfer source id target => cases stays
  | arrive source id =>
      have acts : agent.trip.act? .arrive = some ⟨.arriving source, none⟩ := by
        rw [moving]
        rfl
      exact ⟨queue, true, present, listed, _, .arrived present find found acts rfl, rfl⟩
  | stuck source id =>
      have acts : agent.trip.act? .abort = some ⟨.inactive, some .stuck⟩ := by
        rw [moving]
        rfl
      exact ⟨queue, false, present, listed, _, .removed present find found acts, rfl⟩

/-- A transfer comes as far as to the link that it goes to. -/
theorem reaches {source target : LinkId} {id : AgentId}
    (ready : traffic.Ready before network tickSecs pending
      (.ofMove (.transfer source id target) :: orders))
    (grounds : before.roads.Grounds network before.population context
      (.transfer source id target) vehicle agent) :
    ∃ queue next trip, traffic.roads.queue? source = some queue ∧ vehicle ∈ queue.vehicles ∧
      queue.vehicles.find? (·.agent == id) = some vehicle ∧
      (traffic.roads.setQueue source (queue.releasing vehicle true)).queue? target =
        some next ∧
      traffic.population.get? id = some agent ∧
      agent.trip.act? (.advance target) = some trip := by
  obtain ⟨queue, step, present, listed, find, found, moving⟩ :=
    ready.aboard grounds
  change traffic.roads.queue? source = some queue at present
  obtain ⟨_, following, -, exists', -⟩ :=
    Network.isSuccessor?_eq_true.mp (grounds.joined target rfl)
  have reachable : (traffic.roads.queue? target).isSome :=
    (ready.mirrors.isSome_queue? target).trans (Option.isSome_of_eq_some exists')
  have kept : ((traffic.roads.setQueue source (queue.releasing vehicle true)).queue?
      target).isSome := by
    rw [Roads.queue?_setQueue present]
    split
    · rfl
    · exact reachable
  obtain ⟨next, reached⟩ := Option.isSome_iff_exists.mp kept
  have acts : agent.trip.act? (.advance target) = some ⟨.moving target (step + 1), none⟩ := by
    rw [moving]
    rfl
  exact ⟨queue, next, _, present, listed, find, reached, found, acts⟩

end Ready

end Ready

section Supplied

variable {network : Network Rat} {table : ModeTable Rat} {context : RouteContext}
  {traffic traffic' before : Traffic Rat} {tickSecs : Nat} {pending : List AgentId}
  {sizes : Sizes} {free last : FreeRoom} {orders : List Happening} {moves : List Move}

/-- That the links have the room that was promised on grounds of what they held `before`. -/
structure Supplied (traffic before : Traffic Rat) (sizes : Sizes) (free : FreeRoom) : Prop where
  rules : traffic.roads.rules = before.roads.rules
  accounted : traffic.roads.Accounted
  honours : traffic.roads.Honours sizes free

/-- A move can be carried out if its vehicle finds the room that was granted to it. -/
theorem Supplied.exists_step {move : Move} {vehicle : Vehicle Rat} {agent : Agent}
    (supplied : traffic.Supplied before sizes free) (narrow : sizes.Narrow)
    (ready : traffic.Ready before network tickSecs pending (.ofMove move :: orders))
    (sized : ∀ {link vehicle}, (link, vehicle) ∈ before.roads.fleet →
      sizes vehicle.pcu (before.roads.seeps vehicle.mode))
    (grounds : before.roads.Grounds network before.population context move vehicle agent)
    (grants : before.roads.Grants free (move :: moves) last) :
    ∃ traffic' free', Step table context traffic (.ofMove move) traffic' ∧
      traffic'.Supplied before sizes free' ∧ before.roads.Grants free' moves last := by
  obtain ⟨rules, accounted, honours⟩ := supplied
  cases grants with
  | stay stays later =>
      obtain ⟨queue, movesOn, present, listed, traffic', step, roads⟩ :=
        ready.exists_step_of_stays table grounds stays
      refine ⟨traffic', free, step, ⟨step.rules.trans rules, accounted.step step, ?_⟩, later⟩
      rw [roads]
      exact honours.releasing present (accounted _ queue present) listed movesOn
  | @enter _ _ _ _ target granted promised promised' _ goes aboard' own' known taken later =>
      cases move with
      | arrive | stuck => cases goes
      | transfer source id =>
          cases goes
          obtain ⟨queue, next, trip, present, listed, find, reached, found, acts⟩ :=
            ready.reaches grounds
          -- The vehicle that room was promised to is the one that is still on the link.
          have untouched : traffic.Untouched before id := ready.untouched_self
          have there := (untouched.vehicle own').mpr aboard'
          have here := (untouched.vehicle grounds.own).mpr grounds.aboard
          cases ready.placed.eq_of_agent_eq there here (own'.trans grounds.own.symm)
          have size := sized grounds.aboard
          have seeps := Roads.seeps_eq_of_rules rules vehicle.mode
          rw [← seeps] at size taken
          have positive := (accounted source queue present).positive vehicle listed
          have left := honours.releasing present (accounted _ queue present) listed true
          obtain ⟨seeping, room, enters, honours⟩ :=
            left.holding narrow reached known size positive taken context.now
          have step : Step table context traffic (.transferred id source target) _ :=
            .transferred present find reached enters found acts (LinkQueue.dates_rat ..)
          exact ⟨_, _, step, ⟨step.rules.trans rules, accounted.step step, honours⟩, later⟩

/-- All orders can be carried out. -/
theorem Supplied.exists_steps (supplied : traffic.Supplied before sizes free)
    (narrow : sizes.Narrow)
    (ready : traffic.Ready before network tickSecs pending orders)
    (sized : ∀ {link vehicle}, (link, vehicle) ∈ before.roads.fleet →
      sizes vehicle.pcu (before.roads.seeps vehicle.mode))
    (warranted : ∀ happening ∈ orders, before.Warranted network context happening)
    (grants : before.roads.Grants free (orders.filterMap Happening.move?) last) :
    ∃ final, Steps table context traffic orders final := by
  induction orders generalizing traffic pending free with
  | nil => exact ⟨traffic, .nil⟩
  | cons happening rest ih =>
      obtain ⟨first, others⟩ := List.forall_mem_cons.mp warranted
      obtain ⟨id, link, rfl, exists'⟩ | ⟨move, vehicle, agent, rfl, seen⟩ := first
      · obtain ⟨queue, present⟩ := Option.isSome_iff_exists.mp
          ((ready.mirrors.isSome_queue? link).trans exists')
        have step : Step table context traffic (.heldUp id link) _ := .heldUp present
        obtain ⟨final, steps⟩ := ih
          ⟨step.rules.trans supplied.rules, supplied.accounted.step step,
            supplied.honours.of_like step.like_of_heldUp.1⟩ (ready.step step) others grants
        exact ⟨final, .cons step steps⟩
      · rw [List.filterMap_cons_some (Happening.move?_ofMove move)] at grants
        obtain ⟨traffic', free', step, supplied, grants⟩ :=
          supplied.exists_step narrow ready sized seen grants
        obtain ⟨final, steps⟩ := ih supplied (ready.step step) others grants
        exact ⟨final, .cons step steps⟩

end Supplied

end Traffic

namespace World

theorem warranted_of_mem_orders {α : Type} [Quantity α] {network : Network α}
    {context : RouteContext} {traffic : Traffic α} {tickSecs : Nat} {pending : List AgentId}
    {decisions : List NodeDecision}
    (decided : decideAll network context traffic = .ok decisions) (sound : network.Sound)
    (mirrors : traffic.roads.Mirrors tickSecs network) (placed : traffic.Placed pending) :
    ∀ happening ∈ decisions.flatMap (·.orders), traffic.Warranted network context happening := by
  intro happening ordered
  obtain ⟨id, link, same, present⟩ | grounds :=
    grounds_of_mem_orders decided sound mirrors placed ordered
  · exact .inl ⟨id, link, same, (mirrors.isSome_queue? link).symm.trans present⟩
  · exact .inr grounds

/-- All orders of an interval are ready to be carried out when they have been given. -/
theorem ready_orders {α : Type} [Quantity α] {network : Network α}
    {context : RouteContext} {traffic : Traffic α} {tickSecs : Nat} {pending : List AgentId}
    {decisions : List NodeDecision}
    (decided : decideAll network context traffic = .ok decisions) (sound : network.Sound)
    (mirrors : traffic.roads.Mirrors tickSecs network) (placed : traffic.Placed pending) :
    traffic.Ready traffic network tickSecs pending (decisions.flatMap (·.orders)) :=
  ⟨placed, mirrors, nodup_touched decided sound mirrors placed, fun id _ => .refl traffic id⟩

section Promised

variable {network : Network Rat} {context : RouteContext} {traffic : Traffic Rat}
  {tickSecs : Nat} {decisions : List NodeDecision}

/-- Each node promises room on links of its own, so that all promises hold together. -/
theorem exists_grants {nodes : List NodeId} {free : FreeRoom}
    (each : List.Forall₂ (fun node decision =>
      traffic.roads.decide network traffic.population context node = .ok decision)
      nodes decisions)
    (distinct : nodes.Nodup) (sound : network.Sound) (labelled : traffic.roads.Labelled)
    (known : ∀ link attributes, network.link? link = some attributes →
      attributes.start ∈ nodes → free link = (traffic.roads.queue? link).map (·.room)) :
    ∃ last, traffic.roads.Grants free (decisions.flatMap (·.moves)) last := by
  induction each generalizing free with
  | nil => exact ⟨free, .nil⟩
  | @cons node decision nodes decisions decided _ ih =>
      obtain ⟨fresh, distinct⟩ := List.nodup_cons.mp distinct
      obtain ⟨outgoing, inbound, rooms, decides⟩ := Roads.decides_of_decide decided
      obtain ⟨rooms', chooses⟩ := decides.chosen
      have opened := Roads.lookup_of_roomsOf decides.opened
      obtain ⟨middle, granted, same⟩ : ∃ middle,
          traffic.roads.Grants free decision.moves middle ∧
            ∀ link, rooms.lookup link = none → middle link = free link := by
        refine (chooses.grants labelled).widen fun {link room} found => ?_
        rw [opened] at found
        split at found
        · rename_i listed
          obtain ⟨attributes, exists', start⟩ := (sound.mem_outgoing decides.leaving).mp listed
          rw [known link attributes exists' (start ▸ List.mem_cons_self)]
          exact found
        · cases found
      obtain ⟨last, later⟩ := @ih middle distinct (by
        intro link attributes exists' listed
        rw [same link, known link attributes exists' (List.mem_cons_of_mem _ listed)]
        rw [opened, if_neg]
        intro leaves
        obtain ⟨again, found, start⟩ := (sound.mem_outgoing decides.leaving).mp leaves
        cases exists'.symm.trans found
        exact fresh (start ▸ listed))
      exact ⟨last, granted.append later⟩

/-- What all nodes have decided can be carried out in whatever order, where no vehicle that may
seep is larger than one that may not. -/
theorem exists_commit {decisions' : List NodeDecision} {table : ModeTable Rat}
    {pending : List AgentId} {sizes : Sizes}
    (decided : decideAll network context traffic = .ok decisions)
    (order : decisions'.Perm decisions) (sound : network.Sound)
    (mirrors : traffic.roads.Mirrors tickSecs network) (placed : traffic.Placed pending)
    (accounted : traffic.roads.Accounted) (narrow : sizes.Narrow)
    (sized : ∀ {link vehicle}, (link, vehicle) ∈ traffic.roads.fleet →
      sizes vehicle.pcu (traffic.roads.seeps vehicle.mode)) :
    ∃ final, Traffic.Steps table context traffic (decisions'.flatMap (·.orders)) final := by
  obtain ⟨nodes, each, nodes_perm⟩ :=
    List.perm_comp_forall₂ order (List.Forall₂.flip (decideAll_eq_ok.mp decided))
  have distinct : network.nodeKeys.Nodup := Key.nodup_map_range _
  obtain ⟨last, grants⟩ := exists_grants each.flip (nodes_perm.nodup_iff.mpr distinct) sound
    placed.labelled fun _ _ _ _ => rfl
  have moves : (decisions'.flatMap (·.orders)).filterMap Happening.move? =
      decisions'.flatMap (·.moves) := by
    rw [List.filterMap_flatMap]
    simp only [NodeDecision.moves_orders]
  have orders : (decisions'.flatMap (·.orders)).Perm (decisions.flatMap (·.orders)) :=
    order.flatMap_right _
  obtain ⟨_, _, once, untouched⟩ := ready_orders decided sound mirrors placed
  rw [← moves] at grants
  refine Traffic.Supplied.exists_steps ⟨rfl, accounted, ?_⟩ narrow
    ⟨placed, mirrors, (orders.filterMap _).nodup_iff.mpr once, fun id member =>
      untouched id ((orders.filterMap _).mem_iff.mp member)⟩ sized
    (fun happening member => warranted_of_mem_orders decided sound mirrors placed happening
      (orders.mem_iff.mp member)) grants
  intro link queue room present known
  change (traffic.roads.queue? link).map (·.room) = some room at known
  rw [present] at known
  cases known
  exact ⟨.larger le_rfl le_rfl, (accounted link queue present).room_within⟩

end Promised

end World

end MixedTraffic

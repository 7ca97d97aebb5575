import MixedTraffic.Proofs.Run.Passage

namespace MixedTraffic

variable {α : Type}

/-! In which order vehicles leave a link. -/

namespace Happening

theorem leaves?_ofMove (move : Move) : (ofMove move).leaves? = some move.source := by
  cases move <;> rfl

theorem ofMove_injective : Function.Injective ofMove := by
  intro move other same
  cases move <;> cases other <;> cases same <;> rfl

end Happening

namespace LinkQueue.Becomes

variable {link : LinkId} {now : Tick} {happenings : List Happening} {queue queue' : LinkQueue α}
  {vehicle other : Vehicle α}

theorem old_of_ready (becomes : queue.Becomes link now happenings queue')
    (member : vehicle ∈ queue'.vehicles) (ready : vehicle.exitTick ≤ now) :
    vehicle ∈ queue.vehicles ∧ Happening.Remains link happenings vehicle.agent := by
  obtain old | newcomer := becomes.known vehicle member
  · exact old
  · exact absurd newcomer.later (Nat.not_lt.mpr ready)

theorem old_of_ahead (becomes : queue.Becomes link now happenings queue')
    (ordered : queue.Ordered) (member : vehicle ∈ queue'.vehicles)
    (ready : vehicle.exitTick ≤ now) (member' : other ∈ queue'.vehicles)
    (ahead : queue'.Ahead other vehicle) :
    other ∈ queue.vehicles ∧ Happening.Remains link happenings other.agent := by
  obtain old | newcomer := becomes.known other member'
  · exact old
  · have earlier := ordered.numbered vehicle (becomes.old_of_ready member ready).1
    have behind : ¬queue.Ahead other vehicle :=
      Ahead.not_of_newcomer ready (earlier.trans_le newcomer.numbered) newcomer.later
    exact absurd ((Ahead.congr becomes.passing).mp ahead) behind

end LinkQueue.Becomes

theorem Service.split_orders {service : Service α} {done later : List Happening}
    {happening : Happening} {link : LinkId}
    (parts : service.orders = done ++ happening :: later)
    (leaves : happening.leaves? = some link) :
    ∃ before move after, service.plan.moves = before ++ move :: after ∧
      done = before.map .ofMove ∧ happening = .ofMove move := by
  have unmarked : happening ∉ service.marks.map .ofMark := by
    intro marked
    obtain ⟨entry, -, rfl⟩ := List.mem_map.mp marked
    cases leaves
  obtain ⟨between, -, others⟩ | ⟨rest, moved, others⟩ := List.append_eq_append_iff.mp parts
  · refine absurd ?_ unmarked
    rw [others]
    exact List.mem_append_right _ List.mem_cons_self
  · cases rest with
    | nil =>
        refine absurd ?_ unmarked
        rw [← others.trans (List.nil_append _)]
        exact List.mem_cons_self
    | cons first rest =>
        obtain ⟨rfl, -⟩ := List.cons.inj others
        obtain ⟨before, others, moves, rfl, named⟩ := List.map_eq_append_iff.mp moved
        obtain ⟨move, after, rfl, rfl, -⟩ := List.map_eq_cons_iff.mp named
        exact ⟨before, move, after, moves, rfl, rfl⟩

variable [Quantity α]

/-- A service of a passage with the queue that it serves, split where it comes to its end. -/
structure Passage.Serving (passage : Passage α) (service : Service α) (queue : LinkQueue α)
    (gone rest : List (Vehicle α)) (leading trailing : List Move) : Prop where
  present : passage.course.midway.roads.queue? service.link = some queue
  ordered : queue.Ordered
  distinct : (queue.vehicles.map (·.agent)).Nodup
  front : passage.course.midway.roads.Front passage.tick queue queue.vehicles service.plan
    service.refused gone rest leading trailing

namespace Passage

variable {passage : Passage α} {first : Network α} {tickSecs : Nat} {service : Service α}
  {queue : LinkQueue α} {gone rest : List (Vehicle α)} {leading trailing : List Move}

theorem exists_serving (regular : passage.world.Regular first tickSecs)
    (member : service ∈ passage.services) :
    ∃ queue gone rest leading trailing,
      passage.Serving service queue gone rest leading trailing := by
  obtain ⟨pending, placed⟩ := placed_midway regular
  obtain ⟨junction, queue, before, after, context, present, serves⟩ := passage.serves member
  obtain ⟨gone, rest, leading, trailing, front⟩ := serves.front rfl
  have now : junction.context.now = passage.tick := by
    rw [context]
    exact passage.clock
  rw [now] at front
  exact ⟨queue, gone, rest, leading, trailing, present, inLine_midway regular _ _ present,
    placed.nodup_agents present, front⟩

namespace Serving

variable {vehicle other : Vehicle α} {move : Move}

theorem eq_of_agent_eq (serving : passage.Serving service queue gone rest leading trailing)
    (member : vehicle ∈ queue.vehicles) (member' : other ∈ queue.vehicles)
    (same : vehicle.agent = other.agent) : vehicle = other :=
  List.inj_on_of_nodup_map serving.distinct member member' same

theorem agent_notMem_leading
    (serving : passage.Serving service queue gone rest leading trailing)
    (member : vehicle ∈ rest) : vehicle.agent ∉ leading.map Move.agent := by
  have distinct := serving.distinct
  rw [serving.front.vehicles, List.map_append, List.nodup_append] at distinct
  rw [serving.front.agents]
  exact fun again => distinct.2.2 _ again _ (List.mem_map_of_mem member) rfl

theorem agent_notMem_moves {front : Vehicle α} {behind : List (Vehicle α)}
    (serving : passage.Serving service queue gone (front :: behind) leading trailing)
    (past : ∀ move ∈ trailing, ∃ other ∈ behind, other.agent = move.agent) :
    front.agent ∉ service.plan.moves.map Move.agent := by
  rw [serving.front.moves, List.map_append, List.mem_append, not_or]
  refine ⟨serving.agent_notMem_leading List.mem_cons_self, fun again => ?_⟩
  obtain ⟨move, trails, named⟩ := List.mem_map.mp again
  obtain ⟨other, listed, named'⟩ := past move trails
  have distinct := serving.distinct
  rw [serving.front.vehicles, List.map_append, List.nodup_append, List.map_cons,
    List.nodup_cons] at distinct
  refine distinct.2.1.1 ?_
  rw [← named, ← named']
  exact List.mem_map_of_mem listed

/-- Past the end of a service, a vehicle leaves only if it may seep, and behind one that is
turned away. -/
theorem seeps_of_trailing
    (serving : passage.Serving service queue gone rest leading trailing)
    (moved : move ∈ trailing) (member : vehicle ∈ queue.vehicles)
    (own : vehicle.agent = move.agent) (member' : other ∈ queue.vehicles)
    (ahead : queue.Ahead other vehicle) (remains : other.agent ∉ leading.map Move.agent) :
    passage.course.midway.roads.seeps vehicle.mode = true ∧
      ∃ refused ∈ service.refused, refused ∈ queue.vehicles ∧ queue.Ahead refused vehicle ∧
        refused.agent ∉ service.plan.moves.map Move.agent := by
  have same {third : Vehicle α} (listed : third ∈ rest) (named : third.agent = move.agent) :
      vehicle = third := by
    refine serving.eq_of_agent_eq member ?_ (own.trans named.symm)
    rw [serving.front.vehicles]
    exact List.mem_append_right _ listed
  have whole := serving
  obtain ⟨-, ordered, distinct, vehicles, moves, agents, on, ends⟩ := serving
  generalize service.plan.blocked = blocked, service.refused = turned at ends ⊢
  cases ends with
  | quiet => cases moved
  | @stuck front behind =>
      obtain rfl := same List.mem_cons_self (List.mem_singleton.mp moved ▸ rfl)
      have earlier := ordered.mem_of_ahead vehicles member' ahead
      rw [agents] at remains
      exact absurd (List.mem_map_of_mem earlier) remains
  | @held front behind refused _ _ _ seeping =>
      obtain ⟨-, third, listed, named, seeps⟩ := seeping move moved
      obtain rfl := same (List.mem_cons_of_mem _ listed) named
      refine ⟨seeps, front, List.mem_cons_self, ?_, ordered.ahead_of_mem vehicles listed, ?_⟩
      · rw [vehicles]
        exact List.mem_append_right _ List.mem_cons_self
      · refine whole.agent_notMem_moves fun move trails => ?_
        obtain ⟨-, third, listed, named, -⟩ := seeping move trails
        exact ⟨third, listed, named⟩

/-- A vehicle that leaves before one that stands ahead of it may seep, and one that stands ahead
of it is turned away. -/
theorem seeps_of_overtakes
    (serving : passage.Serving service queue gone rest leading trailing)
    {before after : List Move} (parts : service.plan.moves = before ++ move :: after)
    (member : vehicle ∈ queue.vehicles) (own : vehicle.agent = move.agent)
    (member' : other ∈ queue.vehicles) (ahead : queue.Ahead other vehicle)
    (remains : other.agent ∉ before.map Move.agent) :
    passage.course.midway.roads.seeps vehicle.mode = true ∧
      ∃ refused ∈ service.refused, refused ∈ queue.vehicles ∧ queue.Ahead refused vehicle ∧
        refused.agent ∉ service.plan.moves.map Move.agent := by
  have split := serving.front.moves.symm.trans parts
  obtain ⟨between, rfl, later⟩ | ⟨later, leads, others⟩ := List.append_eq_append_iff.mp split
  · rw [List.map_append, List.mem_append, not_or] at remains
    refine serving.seeps_of_trailing ?_ member own member' ahead remains.1
    rw [later]
    exact List.mem_append_right _ List.mem_cons_self
  · cases later with
    | nil =>
        rw [List.append_nil] at leads
        subst leads
        refine serving.seeps_of_trailing ?_ member own member' ahead remains
        rw [← others.trans (List.nil_append _)]
        exact List.mem_cons_self
    | cons first later =>
        -- Then all that stand ahead of it have left before.
        obtain ⟨rfl, -⟩ := List.cons.inj others
        have agents := serving.front.agents
        rw [leads, List.map_append, eq_comm, List.map_eq_append_iff] at agents
        obtain ⟨front, behind, rfl, same, next⟩ := agents
        obtain ⟨third, behind, rfl, named, -⟩ := List.map_eq_cons_iff.mp next
        have vehicles := serving.front.vehicles
        rw [List.append_assoc, List.cons_append] at vehicles
        have listed : third ∈ queue.vehicles := by
          rw [vehicles]
          exact List.mem_append_right _ List.mem_cons_self
        obtain rfl := serving.eq_of_agent_eq member listed (own.trans named.symm)
        have earlier := serving.ordered.mem_of_ahead vehicles member' ahead
        rw [← same] at remains
        exact absurd (List.mem_map_of_mem earlier) remains

end Serving

end Passage

namespace Passage

/-- That so much has happened in a passage, and that `traffic` is what has become of it. -/
structure Reaches (passage : Passage α) (done : List Happening) (traffic : Traffic α) : Prop where
  within : done <+: passage.course.happenings
  steps : Traffic.Steps passage.course.changed.table
    (passage.course.changed.context passage.flowPermanent) passage.course.changed.refilled done
    traffic

variable {passage : Passage α} {first : Network α} {tickSecs : Nat} {link : LinkId}
  {done : List Happening} {happening : Happening} {traffic : Traffic α} {queue : LinkQueue α}
  {vehicle other : Vehicle α}

/-- What every happening of a passage keeps holds of all that it reaches. -/
theorem Reaches.accumulates (holds : List Happening → Traffic α → Prop)
    (each : ∀ {earlier : List Happening} {happening : Happening} {before after : Traffic α},
      passage.Reaches earlier before → earlier ++ [happening] <+: passage.course.happenings →
      holds earlier before →
      Traffic.Step passage.course.changed.table
        (passage.course.changed.context passage.flowPermanent) before happening after →
      holds (earlier ++ [happening]) after)
    (start : holds [] passage.course.changed.refilled) (reaches : passage.Reaches done traffic) :
    holds done traffic := by
  have both := reaches.steps.accumulates
    (fun done traffic => passage.Reaches done traffic ∧ holds done traffic) ?_
    ⟨⟨List.nil_prefix, .nil⟩, start⟩
  · exact both.2
  · rintro earlier rest happening before after parts ⟨reached, held⟩ step
    have next : earlier ++ [happening] <+: done :=
      ⟨rest, by rw [parts, List.append_assoc, List.singleton_append]⟩
    have within := next.trans reaches.within
    exact ⟨⟨within, reached.steps.append (.cons step .nil)⟩, each reached within held step⟩

theorem reaches_midway (passage : Passage α) :
    passage.Reaches passage.course.departures passage.course.midway :=
  ⟨List.prefix_append .., passage.follows.departed⟩

theorem reaches_final (passage : Passage α) :
    passage.Reaches passage.course.happenings passage.course.final :=
  ⟨List.prefix_rfl, passage.follows.steps⟩

theorem leaves?_of_mem_departures (member : happening ∈ passage.course.departures) :
    happening.leaves? = none := by
  have due := Happening.departure?_ne_none passage.follows.named happening member
  cases happening <;> first | rfl | exact absurd rfl due

theorem remains_departures (passage : Passage α) (link : LinkId) (id : AgentId) :
    Happening.Remains link passage.course.departures id := by
  intro happening member leaves
  rw [leaves?_of_mem_departures member] at leaves
  cases leaves

theorem split_happenings (next : done ++ [happening] <+: passage.course.happenings)
    (leaves : happening.leaves? = some link) :
    ∃ between later, done = passage.course.departures ++ between ∧
      passage.course.orders = between ++ happening :: later := by
  have undue : happening ∉ passage.course.departures := by
    intro due
    rw [leaves?_of_mem_departures due] at leaves
    cases leaves
  obtain ⟨later, parts⟩ := next
  rw [Course.happenings, List.append_assoc, List.singleton_append] at parts
  obtain ⟨between, departures, others⟩ | ⟨between, rfl, others⟩ :=
    List.append_eq_append_iff.mp parts
  · cases between with
    | nil => exact ⟨[], later, by rw [departures, List.append_nil, List.append_nil], others.symm⟩
    | cons first between =>
        obtain ⟨rfl, -⟩ := List.cons.inj others
        refine absurd ?_ undue
        rw [departures]
        exact List.mem_append_right _ List.mem_cons_self
  · exact ⟨between, later, rfl, others⟩

/-- What leaves a link by some orders are the agents of the moves among them. -/
theorem remains_iff (passage : Passage α) {service : Service α} {orders : List Happening}
    {moves : List Move} {marks : List (LinkId × AgentId)}
    (isLocal : ∀ move ∈ moves, move.source = service.link)
    (same : orders.filter (·.served? = some service.link) =
      moves.map .ofMove ++ marks.map .ofMark) (id : AgentId) :
    Happening.Remains service.link (passage.course.departures ++ orders) id ↔
      id ∉ moves.map Move.agent := by
  rw [Happening.remains_append, and_iff_right (passage.remains_departures _ _)]
  constructor
  · intro remains gone
    obtain ⟨move, listed, rfl⟩ := List.mem_map.mp gone
    have ordered : Happening.ofMove move ∈ orders.filter (·.served? = some service.link) := by
      rw [same]
      exact List.mem_append_left _ (List.mem_map_of_mem listed)
    refine remains _ (List.mem_of_mem_filter ordered) ?_ (Happening.agent_ofMove move)
    rw [Happening.leaves?_ofMove, isLocal move listed]
  · intro stays happening ordered leaves own
    have served : happening ∈ orders.filter (·.served? = some service.link) :=
      List.mem_filter.mpr ⟨ordered, decide_eq_true (Happening.served?_of_leaves? leaves)⟩
    rw [same, List.mem_append] at served
    obtain moved | marked := served
    · obtain ⟨move, listed, rfl⟩ := List.mem_map.mp moved
      rw [Happening.agent_ofMove] at own
      exact stays (own ▸ List.mem_map_of_mem listed)
    · obtain ⟨entry, -, rfl⟩ := List.mem_map.mp marked
      cases leaves

section Regular

variable (regular : passage.world.Regular first tickSecs) (sound : first.Sound)

include regular

theorem Reaches.placed (reaches : passage.Reaches done traffic) :
    ∃ pending, traffic.Placed pending :=
  ⟨_, (passage.placed regular).steps reaches.steps⟩

theorem Reaches.inLine (reaches : passage.Reaches done traffic) : traffic.roads.InLine :=
  reaches.steps.preserves (fun traffic => traffic.roads.InLine) Traffic.Step.inLine
    (regular.inLine.of_lineups (World.refilled_lineups passage.follows.changed))

theorem Reaches.becomes (reaches : passage.Reaches done traffic)
    (present : traffic.roads.queue? link = some queue) :
    ∃ old, passage.course.changed.refilled.roads.queue? link = some old ∧ old.Ordered ∧
      old.Becomes link passage.tick done queue := by
  obtain ⟨old, found, -⟩ := Roads.site_eq_of_sites reaches.steps.sites present
  obtain ⟨queue', present', becomes⟩ := reaches.steps.becomes (passage.placed regular) found
  cases present.symm.trans present'
  rw [passage.context_now] at becomes
  have inLine := regular.inLine.of_lineups (World.refilled_lineups passage.follows.changed)
  exact ⟨old, found, inLine link old found, becomes⟩

include sound

/-- A vehicle leaves its link as one of those planned for by the service of the link, which
finds it ready. -/
theorem Reaches.exists_move (reaches : passage.Reaches done traffic)
    (next : done ++ [happening] <+: passage.course.happenings)
    (leaves : happening.leaves? = some link) (present : traffic.roads.queue? link = some queue)
    (member : vehicle ∈ queue.vehicles) (own : vehicle.agent = happening.agent) :
    vehicle.exitTick ≤ passage.tick ∧
    ∃ service ∈ passage.services, service.link = link ∧
      ∃ before move after, service.plan.moves = before ++ move :: after ∧
        vehicle.agent = move.agent ∧
        ∀ id, Happening.Remains link done id ↔ id ∉ before.map Move.agent := by
  obtain ⟨between, later, rfl, orders⟩ := split_happenings next leaves
  have ordered : happening ∈ passage.course.orders := by
    rw [orders]
    exact List.mem_append_right _ List.mem_cons_self
  have served := Happening.served?_of_leaves? leaves
  obtain ⟨service, listed, rfl⟩ := exists_service regular ordered served
  have filtered := filter_orders regular sound listed
  rw [orders, List.filter_append, List.filter_cons_of_pos (by simpa using served)]
    at filtered
  obtain ⟨before, move, after, parts, same, rfl⟩ := Service.split_orders filtered.symm leaves
  have isLocal : ∀ move ∈ before, move.source = service.link := fun other earlier =>
    isLocal regular listed other (parts ▸ List.mem_append_left _ earlier)
  have unmarked : between.filter (·.served? = some service.link) =
      before.map .ofMove ++ ([] : List (LinkId × AgentId)).map .ofMark := by
    rw [same, List.map_nil, List.append_nil]
  have remains := passage.remains_iff isLocal unmarked
  rw [Happening.agent_ofMove] at own
  -- The vehicle is the one that the node has seen, as no other of its agent has come since.
  obtain ⟨pending, placed⟩ := placed_midway regular
  obtain ⟨_, _, absurd, -⟩ | ⟨move', seen, agent, same', grounds⟩ :=
    World.grounds_of_mem_orders passage.follows.decided (passage.sound regular sound)
      (mirrors_midway regular) placed ordered
  · cases move <;> cases absurd
  obtain rfl : move = move' := Happening.ofMove_injective same'
  obtain ⟨found, seenReady, aboard⟩ : move.source = service.link ∧
      seen.exitTick ≤ passage.tick ∧ (move.source, seen) ∈ passage.course.midway.roads.fleet := by
    rw [Happening.leaves?_ofMove] at leaves
    exact ⟨Option.some.inj leaves, passage.clock ▸ grounds.ready, grounds.aboard⟩
  rw [found, Roads.mem_fleet placed.labelled] at aboard
  obtain ⟨midway, presentMidway, aboard⟩ := aboard
  obtain ⟨old, before', -, becoming⟩ := passage.reaches_midway.becomes regular presentMidway
  obtain ⟨old', after', -, becomes⟩ := reaches.becomes regular present
  cases before'.symm.trans after'
  obtain ⟨there, -⟩ := becoming.old_of_ready aboard seenReady
  have once : move.agent ∉ before.map Move.agent := by
    have distinct := World.nodup_touched passage.follows.decided (passage.sound regular sound)
      (mirrors_midway regular) placed
    change (passage.course.orders.filterMap Happening.touched?).Nodup at distinct
    rw [orders, List.filterMap_append,
      List.filterMap_cons_some (Happening.touched?_ofMove move)] at distinct
    intro again
    obtain ⟨other, earlier, named⟩ := List.mem_map.mp again
    have among : Happening.ofMove other ∈ between :=
      List.mem_of_mem_filter (same ▸ List.mem_map_of_mem earlier)
    refine (List.nodup_append.mp distinct).2.2 move.agent ?_ move.agent List.mem_cons_self rfl
    exact List.mem_filterMap.mpr ⟨_, among, named ▸ Happening.touched?_ofMove other⟩
  have here : seen ∈ queue.vehicles :=
    becomes.stays seen there ((remains _).mpr (grounds.own ▸ once))
  obtain ⟨waiting, placedHere⟩ := reaches.placed regular
  obtain rfl := List.inj_on_of_nodup_map (placedHere.nodup_agents present) member here
    (own.trans grounds.own.symm)
  exact ⟨seenReady, service, listed, rfl, before, move, after, parts, own, remains⟩

/-- A vehicle leaves a link before another that stands ahead of it only if it may seep, and
only in an interval in which a vehicle ahead of it is turned away and stays. -/
theorem Reaches.seeps_of_leaves (reaches : passage.Reaches done traffic)
    (next : done ++ [happening] <+: passage.course.happenings)
    (leaves : happening.leaves? = some link) (present : traffic.roads.queue? link = some queue)
    (member : vehicle ∈ queue.vehicles) (own : vehicle.agent = happening.agent)
    (member' : other ∈ queue.vehicles) (ahead : queue.Ahead other vehicle) :
    passage.course.midway.roads.seeps vehicle.mode = true ∧
      ∃ service ∈ passage.services, service.link = link ∧
        ∃ refused ∈ service.refused, refused ∈ queue.vehicles ∧ queue.Ahead refused vehicle := by
  obtain ⟨ready, service, listed, rfl, before, move, after, parts, named, remains⟩ :=
    reaches.exists_move regular sound next leaves present member own
  obtain ⟨seen, gone, rest, leading, trailing, serving⟩ := exists_serving regular listed
  obtain ⟨old, found, ordered, becomes⟩ := reaches.becomes regular present
  obtain ⟨old', found', -, becoming⟩ := passage.reaches_midway.becomes regular serving.present
  cases found.symm.trans found'
  have same : queue.passing = seen.passing := becomes.passing.trans becoming.passing.symm
  have waits := passage.remains_departures service.link
  have midway {third : Vehicle α} (there : third ∈ old.vehicles) : third ∈ seen.vehicles :=
    becoming.stays third there (waits _)
  obtain ⟨there, -⟩ := becomes.old_of_ready member ready
  obtain ⟨there', stays⟩ := becomes.old_of_ahead ordered member ready member' ahead
  obtain ⟨seeps, refused, turned, aboard, earlier, unmoved⟩ :=
    serving.seeps_of_overtakes parts (midway there) named (midway there')
      ((LinkQueue.Ahead.congr same).mp ahead) ((remains _).mp stays)
  obtain ⟨there'', -⟩ :=
    becoming.old_of_ahead ordered (midway there) ready aboard earlier
  refine ⟨seeps, service, listed, rfl, refused, turned, ?_,
    (LinkQueue.Ahead.congr same).mpr earlier⟩
  refine becomes.stays refused there'' ((remains _).mpr fun moved => unmoved ?_)
  rw [parts, List.map_append]
  exact List.mem_append_left _ moved

end Regular

end Passage

end MixedTraffic

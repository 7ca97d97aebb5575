import MixedTraffic.Proofs.Run.Flow
import MixedTraffic.Proofs.Run.Holdup
import MixedTraffic.Proofs.Run.Succession

namespace MixedTraffic

/-! What some orders make of a link and of an agent, where nobody seeps. It does not depend on
how orders about different links and agents take turns. -/

theorem Population.ext_get? {population population' : Population}
    (same : ∀ id, population'.get? id = population.get? id) : population' = population := by
  obtain ⟨agents⟩ := population
  obtain ⟨agents'⟩ := population'
  exact congrArg mk (Array.ext_getElem? fun index => same ⟨index⟩)

theorem Roads.eq_of_queue? {α : Type} {roads roads' : Roads α}
    (queues : ∀ link, roads'.queue? link = roads.queue? link)
    (inbound : roads'.inbound = roads.inbound) (rules : roads'.rules = roads.rules) :
    roads' = roads := by
  obtain ⟨first, _, _, _, _⟩ := roads
  obtain ⟨second, _, _, _, _⟩ := roads'
  obtain rfl : second = first := Array.ext_getElem? fun index => queues ⟨index⟩
  simp only [Roads.rules, Prod.mk.injEq] at rules
  obtain ⟨rfl, rfl, rfl⟩ := rules
  obtain rfl := inbound
  rfl

namespace LinkQueue

section Emptied

variable {α : Type} [Quantity α]

def emptied (queue : LinkQueue α) : LinkQueue α :=
  { queue with
    occupied := Quantity.zero
    seepOccupied := Quantity.zero
    accumulator := Quantity.zero
    discharged := Quantity.zero
    blocked := none
    nextSeq := 0
    vehicles := [] }

theorem eq_of_emptied {queue queue' : LinkQueue α} (emptied : queue'.emptied = queue.emptied)
    (occupied : queue'.occupied = queue.occupied)
    (seepOccupied : queue'.seepOccupied = queue.seepOccupied)
    (accumulator : queue'.accumulator = queue.accumulator)
    (discharged : queue'.discharged = queue.discharged)
    (blocked : queue'.blocked = queue.blocked) (nextSeq : queue'.nextSeq = queue.nextSeq)
    (vehicles : queue'.vehicles = queue.vehicles) : queue' = queue := by
  cases queue
  cases queue'
  simp only [LinkQueue.emptied, mk.injEq] at *
  simp_all

theorem emptied_markBlocked (queue : LinkQueue α) (agent : AgentId) (now : Tick) :
    (queue.markBlocked agent now).emptied = queue.emptied := by
  unfold markBlocked
  split <;> rfl

/-- A vehicle that comes onto a link after so many others, as it stands there. -/
def guest (queue : LinkQueue α) (rider : Vehicle α) (now : Tick) (earlier : Nat) : Vehicle α :=
  { queue.stamped rider now false with seq := queue.nextSeq + earlier }

theorem stamped_eq_guest {queue queue' : LinkQueue α} {earlier : Nat}
    (emptied : queue'.emptied = queue.emptied) (nextSeq : queue'.nextSeq = queue.nextSeq + earlier)
    (rider : Vehicle α) (now : Tick) :
    queue'.stamped rider now false = queue.guest rider now earlier := by
  have ticks := congrArg (fun queue : LinkQueue α => queue.travelTicks rider.maxSpeed) emptied
  change queue'.travelTicks rider.maxSpeed = queue.travelTicks rider.maxSpeed at ticks
  rw [guest, stamped, stamped, ticks, nextSeq]

end Emptied

end LinkQueue

namespace Happening

variable {happening : Happening} {link : LinkId}

theorem touched?_of_leaves? (leaves : happening.leaves? = some link) :
    happening.touched? = some happening.agent := by
  cases happening <;> first | rfl | cases leaves

theorem touched?_of_enters? (enters : happening.enters? = some link) :
    happening.touched? = some happening.agent := by
  cases happening <;> first | rfl | cases enters

theorem agent_of_touched? {id : AgentId} (touched : happening.touched? = some id) :
    happening.agent = id := by
  cases happening <;> first | exact Option.some.inj touched | cases touched

theorem notMem_touched {done rest : List Happening} {id : AgentId}
    (distinct : ((done ++ happening :: rest).filterMap touched?).Nodup)
    (touched : happening.touched? = some id) : id ∉ done.filterMap touched? := by
  intro again
  rw [List.filterMap_append, List.filterMap_cons_some touched] at distinct
  exact (List.nodup_append.mp distinct).2.2 id again id List.mem_cons_self rfl

/-- That two lists of orders say the same about a link. -/
structure Agree (link : LinkId) (orders orders' : List Happening) : Prop where
  served : orders'.filter (·.served? = some link) = orders.filter (·.served? = some link)
  entering : orders'.filter (·.enters? = some link) = orders.filter (·.enters? = some link)

namespace Agree

variable {orders orders' : List Happening} (agree : Agree link orders orders')

include agree

theorem coming : coming link orders' = coming link orders :=
  congrArg (List.map agent) agree.entering

theorem drawn (pcuOf : AgentId → Rat) : drawn pcuOf link orders' = drawn pcuOf link orders := by
  rw [← drawn_filter, agree.served, drawn_filter]

theorem foldl_record (now : Tick) (blocked : Option (AgentId × Tick)) :
    orders'.foldl (record link now) blocked = orders.foldl (record link now) blocked := by
  rw [← foldl_record_filter, agree.served, foldl_record_filter]

theorem remains_iff (id : AgentId) : Remains link orders' id ↔ Remains link orders id := by
  have filtered (orders : List Happening) :
      Remains link (orders.filter (·.served? = some link)) id ↔ Remains link orders id := by
    refine ⟨fun remains happening member leaves => ?_, fun remains happening member =>
      remains happening (List.mem_of_mem_filter member)⟩
    refine remains happening (List.mem_filter.mpr ⟨member, ?_⟩) leaves
    exact decide_eq_true (served?_of_leaves? leaves)
  rw [← filtered, agree.served, filtered]

end Agree

end Happening

namespace Traffic

section Population

variable {α : Type} [Quantity α] {table : ModeTable α} {context : RouteContext}
  {traffic traffic' other other' before first second : Traffic α} {happening : Happening}
  {orders orders' : List Happening} {id : AgentId}

theorem Steps.untouched (steps : Steps table context before orders traffic')
    (absent : id ∉ orders.filterMap Happening.touched?) : traffic'.Untouched before id := by
  refine steps.accumulates (fun _ traffic => traffic.Untouched before id) ?_ (.refl before id)
  intro done rest happening traffic traffic' parts untouched step
  refine untouched.step (fun touched => absent ?_) step
  rw [parts, List.filterMap_append, List.filterMap_cons_some touched]
  exact List.mem_append_right _ List.mem_cons_self

theorem Step.get?_eq (step : Step table context traffic happening traffic')
    (step' : Step table context other happening other')
    (same : other.population.get? happening.agent = traffic.population.get? happening.agent) :
    other'.population.get? happening.agent = traffic'.population.get? happening.agent := by
  cases step <;> cases step' <;> simp_all [after, Happening.agent]

/-- An agent to whom one order is given is changed by that order alone. -/
theorem Steps.exists_step (steps : Steps table context before orders first)
    (distinct : (orders.filterMap Happening.touched?).Nodup) (member : happening ∈ orders)
    (touched : happening.touched? = some id) :
    ∃ traffic traffic', Step table context traffic happening traffic' ∧
      traffic.population.get? id = before.population.get? id ∧
      traffic'.population.get? id = first.population.get? id := by
  obtain ⟨earlier, later, rfl⟩ := List.append_of_mem member
  obtain ⟨middle, front, back⟩ := Steps.of_append steps
  cases back with
  | cons step back =>
      have absent := Happening.notMem_touched distinct touched
      refine ⟨middle, _, step, (front.untouched absent).agent, ?_⟩
      refine ((back.untouched fun again => ?_).agent).symm
      rw [List.filterMap_append, List.filterMap_cons_some touched, List.nodup_append,
        List.nodup_cons] at distinct
      exact distinct.2.1.1 again

/-- Orders of which each agent is given at most one make the same of all agents, in whatever
order they are carried out. -/
theorem Steps.population_eq (steps : Steps table context before orders first)
    (steps' : Steps table context before orders' second) (perm : orders'.Perm orders)
    (distinct : (orders.filterMap Happening.touched?).Nodup) :
    second.population = first.population := by
  have distinct' := (perm.filterMap Happening.touched?).nodup_iff.mpr distinct
  refine Population.ext_get? fun id => ?_
  by_cases ordered : id ∈ orders.filterMap Happening.touched?
  · obtain ⟨happening, member, touched⟩ := List.mem_filterMap.mp ordered
    obtain ⟨_, _, step, before₁, after₁⟩ := steps.exists_step distinct member touched
    obtain ⟨_, _, step', before₂, after₂⟩ :=
      steps'.exists_step distinct' (perm.mem_iff.mpr member) touched
    obtain rfl := Happening.agent_of_touched? touched
    rw [← after₁, ← after₂]
    exact step.get?_eq step' (before₂.trans before₁.symm)
  · have absent : id ∉ orders'.filterMap Happening.touched? := fun again =>
      ordered ((perm.filterMap _).mem_iff.mp again)
    rw [(steps.untouched ordered).agent, (steps'.untouched absent).agent]

end Population

end Traffic

namespace Traffic

variable {table : ModeTable Rat} {context : RouteContext} {traffic traffic' before : Traffic Rat}
  {happening : Happening} {orders orders' : List Happening} {pending : List AgentId}
  {link : LinkId} {queue queue' : LinkQueue Rat} {now : Tick} {vehicle : Vehicle Rat}
  {pcuOf : AgentId → Rat}

theorem Steps.emptied (steps : Steps table context traffic orders traffic') :
    traffic'.roads.queues.map LinkQueue.emptied = traffic.roads.queues.map LinkQueue.emptied := by
  induction steps with
  | nil => rfl
  | cons step _ ih =>
      rw [ih]
      exact step.queues_map (fun _ _ => rfl) (fun _ _ _ => rfl) LinkQueue.emptied_markBlocked

/-- That a vehicle has come onto a link by some orders. -/
def Hosts (before : Traffic Rat) (now : Tick) (link : LinkId) (queue : LinkQueue Rat)
    (orders : List Happening) (vehicle : Vehicle Rat) : Prop :=
  ∃ earlier happening later source rider, orders = earlier ++ happening :: later ∧
    happening.enters? = some link ∧ (source, rider) ∈ before.roads.fleet ∧
    rider.agent = happening.agent ∧
    vehicle = queue.guest rider now (Happening.coming link earlier).length

theorem hosts_concat :
    before.Hosts now link queue (orders ++ [happening]) vehicle ↔
      before.Hosts now link queue orders vehicle ∨
        happening.enters? = some link ∧ ∃ source rider, (source, rider) ∈ before.roads.fleet ∧
          rider.agent = happening.agent ∧
          vehicle = queue.guest rider now (Happening.coming link orders).length := by
  constructor
  · rintro ⟨earlier, other, later, source, rider, parts, enters, aboard, own, rfl⟩
    obtain rfl | ⟨rest, last, rfl⟩ := later.eq_nil_or_concat
    · obtain ⟨rfl, same⟩ := List.append_inj' parts rfl
      cases same
      exact .inr ⟨enters, source, rider, aboard, own, rfl⟩
    · rw [List.concat_eq_append, ← List.cons_append, ← List.append_assoc] at parts
      obtain ⟨rfl, -⟩ := List.append_inj' parts rfl
      exact .inl ⟨earlier, other, rest, source, rider, rfl, enters, aboard, own, rfl⟩
  · rintro (⟨earlier, other, later, source, rider, rfl, enters, aboard, own, rfl⟩ |
      ⟨enters, source, rider, aboard, own, rfl⟩)
    · refine ⟨earlier, other, later ++ [happening], source, rider, ?_, enters, aboard, own, rfl⟩
      rw [List.append_assoc, List.cons_append]
    · exact ⟨orders, happening, [], source, rider, rfl, enters, aboard, own, rfl⟩

theorem Hosts.remains {rest : List Happening}
    (distinct : ((orders ++ happening :: rest).filterMap Happening.touched?).Nodup)
    (hosts : before.Hosts now link queue orders vehicle) :
    Happening.Remains link [happening] vehicle.agent := by
  obtain ⟨earlier, other, later, source, rider, rfl, enters, -, own, rfl⟩ := hosts
  refine List.forall_mem_singleton.mpr fun leaves same => ?_
  refine Happening.notMem_touched distinct (Happening.touched?_of_leaves? leaves)
    (List.mem_filterMap.mpr ⟨other, List.mem_append_right _ List.mem_cons_self, ?_⟩)
  rw [Happening.touched?_of_enters? enters, same, ← own]
  rfl

theorem Hosts.congr (hosts : before.Hosts now link queue orders vehicle)
    (same : orders'.filter (·.enters? = some link) = orders.filter (·.enters? = some link)) :
    before.Hosts now link queue orders' vehicle := by
  obtain ⟨earlier, happening, later, source, rider, rfl, enters, aboard, own, rfl⟩ := hosts
  rw [List.filter_append, List.filter_cons_of_pos (by simpa using enters),
    List.filter_eq_append_iff] at same
  obtain ⟨front, back, rfl, first, second⟩ := same
  obtain ⟨between, later', rfl, others, -, -⟩ := List.filter_eq_cons_iff.mp second
  have nobody : between.filter (·.enters? = some link) = [] :=
    List.filter_eq_nil_iff.mpr others
  refine ⟨front ++ between, happening, later', source, rider, ?_, enters, aboard, own, ?_⟩
  · rw [List.append_assoc]
  · rw [Happening.coming, Happening.coming, List.filter_append, nobody, List.append_nil, first]

theorem Turns.mem_iff (turns : traffic.Turns context happening link queue queue')
    (placed : traffic.Placed pending) (strict : ∀ mode, traffic.roads.seeps mode = false)
    (present : traffic.roads.queue? link = some queue) (undue : happening.departure? = none) :
    queue'.nextSeq = queue.nextSeq + (Happening.coming link [happening]).length ∧
      ∀ vehicle, vehicle ∈ queue'.vehicles ↔
        vehicle ∈ queue.vehicles ∧ Happening.Remains link [happening] vehicle.agent ∨
          happening.enters? = some link ∧ ∃ source rider,
            (source, rider) ∈ traffic.roads.fleet ∧ rider.agent = happening.agent ∧
              vehicle = queue.stamped rider context.now false := by
  obtain @⟨left, joined, _, loses, admits, notes⟩ := turns
  obtain ⟨-, numbered, vehicles⟩ := notes.frame
  rw [numbered, vehicles, Happening.coming]
  have remains (vehicle : Vehicle Rat) : vehicle ∈ left.vehicles ↔
      vehicle ∈ queue.vehicles ∧ Happening.Remains link [happening] vehicle.agent :=
    loses.mem_iff (placed.nodup_agents present)
  cases admits with
  | same apart =>
      rw [loses.frame.2]
      refine ⟨by simp [apart], fun vehicle => ?_⟩
      rw [remains, or_iff_left fun joins => apart joins.1]
  | @joined rider seeping room enters own taken comes =>
      obtain rfl : seeping = false := by
        rw [strict] at taken
        obtain ⟨rfl, -⟩ | ⟨-, -, seeps, -⟩ := Room.take?_eq_some.mp taken
        · rfl
        · cases seeps
      obtain ⟨source, leaves⟩ : ∃ source, happening.leaves? = some source := by
        cases happening <;> simp_all [Happening.departure?, Happening.enters?, Happening.leaves?]
      have aboard := comes source leaves
      have stamp : left.stamped rider context.now false =
          queue.stamped rider context.now false := by
        cases loses <;> rfl
      refine ⟨?_, fun vehicle => ?_⟩
      · simp [enters, LinkQueue.holding, loses.frame.2]
      · rw [(left.holding_perm _).mem_iff, List.mem_cons, remains, or_comm, stamp]
        refine or_congr_right ⟨fun same => ⟨enters, source, rider, aboard, own, same⟩, ?_⟩
        rintro ⟨-, other, again, member, same, rfl⟩
        obtain ⟨rfl, rfl⟩ := Prod.mk.inj
          (placed.eq_of_agent_eq aboard member (own.trans same.symm))
        rfl

/-- How many have come onto a link by some orders, and who stands on it then. -/
structure Hosted (before : Traffic Rat) (now : Tick) (link : LinkId) (orders : List Happening)
    (queue queue' : LinkQueue Rat) : Prop where
  nextSeq : queue'.nextSeq = queue.nextSeq + (Happening.coming link orders).length
  vehicles : ∀ vehicle, vehicle ∈ queue'.vehicles ↔
    vehicle ∈ queue.vehicles ∧ Happening.Remains link orders vehicle.agent ∨
      before.Hosts now link queue orders vehicle

theorem Hosted.start : before.Hosted now link [] queue queue := by
  refine ⟨rfl, fun vehicle => (or_iff_left ?_).symm.trans (or_congr_left ?_)⟩
  · rintro ⟨earlier, happening, later, source, rider, parts, -⟩
    cases earlier <;> cases parts
  · exact (and_iff_left (List.forall_mem_nil _)).symm

/-- One order more, of an agent that none of the orders before has touched. -/
theorem Hosted.step {done rest : List Happening} {between : LinkQueue Rat}
    (hosted : before.Hosted context.now link done queue between)
    (steps : Steps table context before done traffic)
    (turns : traffic.Turns context happening link between queue') (placed : before.Placed pending)
    (strict : ∀ mode, before.roads.seeps mode = false)
    (distinct : ((done ++ happening :: rest).filterMap Happening.touched?).Nodup)
    (undue : happening.departure? = none) (present : before.roads.queue? link = some queue)
    (found : traffic.roads.queue? link = some between) :
    before.Hosted context.now link (done ++ [happening]) queue queue' := by
  obtain ⟨numbered, members⟩ := turns.mem_iff (placed.steps steps)
    (fun mode => (Roads.seeps_eq_of_rules steps.rules mode).trans (strict mode)) found undue
  refine ⟨?_, fun vehicle => ?_⟩
  · rw [numbered, hosted.nextSeq, Happening.coming_append, List.length_append, Nat.add_assoc]
  have emptied : between.emptied = queue.emptied := by
    have same := Roads.queue?_of_map_eq steps.emptied link
    rw [found, present] at same
    exact Option.some.inj same
  -- No order before has touched who joins now, so that it rides where it did in the beginning.
  have joins : (happening.enters? = some link ∧ ∃ source rider,
        (source, rider) ∈ traffic.roads.fleet ∧ rider.agent = happening.agent ∧
          vehicle = between.stamped rider context.now false) ↔
      happening.enters? = some link ∧ ∃ source rider,
        (source, rider) ∈ before.roads.fleet ∧ rider.agent = happening.agent ∧
          vehicle = queue.guest rider context.now (Happening.coming link done).length := by
    refine and_congr_right fun enters => exists_congr fun source => exists_congr fun rider => ?_
    rw [LinkQueue.stamped_eq_guest emptied hosted.nextSeq]
    refine and_congr_left fun both => ?_
    have absent := Happening.notMem_touched distinct (Happening.touched?_of_enters? enters)
    exact (steps.untouched absent).vehicle both.1
  rw [members, hosted.vehicles, joins, hosts_concat, Happening.remains_append, or_and_right,
    and_assoc, and_iff_left_of_imp (Hosts.remains distinct), or_assoc]

theorem Steps.hosts (steps : Steps table context before orders traffic')
    (placed : before.Placed pending) (strict : ∀ mode, before.roads.seeps mode = false)
    (distinct : (orders.filterMap Happening.touched?).Nodup)
    (undue : ∀ happening ∈ orders, happening.departure? = none)
    (present : before.roads.queue? link = some queue) :
    ∃ queue', traffic'.roads.queue? link = some queue' ∧
      before.Hosted context.now link orders queue queue' := by
  have both := steps.accumulates
    (fun done traffic => Steps table context before done traffic ∧
      ∃ queue', traffic.roads.queue? link = some queue' ∧
        before.Hosted context.now link done queue queue') ?_ ⟨.nil, queue, present, .start⟩
  · exact both.2
  · rintro done rest happening traffic traffic' rfl ⟨earlier, between, found, hosted⟩ step
    obtain ⟨queue', found', turns⟩ := step.turns (placed.steps earlier).labelled found
    exact ⟨earlier.append (.cons step .nil), queue', found', hosted.step earlier turns placed
      strict distinct (undue happening (List.mem_append_right _ List.mem_cons_self)) present
      found⟩

/-- What some orders, given on grounds of `before`, make of a link. -/
structure Makes (before : Traffic Rat) (now : Tick) (pcuOf : AgentId → Rat) (link : LinkId)
    (orders : List Happening) (queue queue' : LinkQueue Rat) : Prop
    extends before.Hosted now link orders queue queue' where
  emptied : queue'.emptied = queue.emptied
  gives : queue.Gives (Happening.drawn pcuOf link orders) queue'
  blocked : queue'.blocked = orders.foldl (Happening.record link now) queue.blocked

theorem Steps.makes (steps : Steps table context before orders traffic')
    (placed : before.Placed pending) (strict : ∀ mode, before.roads.seeps mode = false)
    (weighs : before.Weighs table pcuOf)
    (distinct : (orders.filterMap Happening.touched?).Nodup)
    (undue : ∀ happening ∈ orders, happening.departure? = none)
    (present : before.roads.queue? link = some queue) :
    ∃ queue', traffic'.roads.queue? link = some queue' ∧
      before.Makes context.now pcuOf link orders queue queue' := by
  obtain ⟨queue', found, hosted⟩ := steps.hosts placed strict distinct undue present
  obtain ⟨_, found₁, becomes⟩ := steps.becomes placed present
  cases found.symm.trans found₁
  obtain ⟨_, found₂, gives⟩ := steps.gives placed weighs present
  cases found.symm.trans found₂
  have emptied := Roads.queue?_of_map_eq steps.emptied link
  rw [found, present] at emptied
  exact ⟨queue', found, hosted, Option.some.inj emptied, gives, becomes.blocked⟩

/-- Orders that say the same about a link make the same of it. -/
theorem Makes.unique {one other : LinkQueue Rat} {seeps seeps' : ModeId → Bool}
    (makes : before.Makes now pcuOf link orders queue one)
    (makes' : before.Makes now pcuOf link orders' queue other)
    (agree : Happening.Agree link orders orders') (ordered : one.Ordered)
    (ordered' : other.Ordered) (accounted : one.Accounted seeps)
    (accounted' : other.Accounted seeps') : other = one := by
  have emptied := makes'.emptied.trans makes.emptied.symm
  have passing := congrArg LinkQueue.passing emptied
  have vehicles : other.vehicles = one.vehicles := by
    refine ordered.eq_of_mem_iff ordered' passing fun vehicle => ?_
    rw [makes.vehicles, makes'.vehicles, agree.remains_iff]
    exact or_congr_right ⟨fun hosts => hosts.congr agree.entering.symm,
      fun hosts => hosts.congr agree.entering⟩
  refine LinkQueue.eq_of_emptied emptied ?_ ?_ ?_ ?_ ?_ ?_ vehicles
  · rw [accounted'.occupied, accounted.occupied, vehicles]
  · rw [accounted'.seepOccupied, accounted.seepOccupied, vehicles]
  · rw [makes'.gives.accumulator, makes.gives.accumulator, agree.drawn]
  · rw [makes'.gives.discharged, makes.gives.discharged, agree.drawn]
  · rw [makes'.blocked, makes.blocked, agree.foldl_record]
  · rw [makes'.nextSeq, makes.nextSeq, agree.coming]

/-- What the roads are known to be when all nodes have decided, where nobody seeps. -/
structure AtBarrier (before : Traffic Rat) (table : ModeTable Rat) (pending : List AgentId) :
    Prop where
  placed : before.Placed pending
  inLine : before.roads.InLine
  accounted : before.roads.Accounted
  strict : ∀ mode, before.roads.seeps mode = false
  weighs : before.Weighs table (before.population.pcuOf table)

theorem AtBarrier.roads_eq {first second : Traffic Rat}
    (barrier : before.AtBarrier table pending)
    (steps : Steps table context before orders first)
    (steps' : Steps table context before orders' second) (perm : orders'.Perm orders)
    (distinct : (orders.filterMap Happening.touched?).Nodup)
    (undue : ∀ happening ∈ orders, happening.departure? = none)
    (agree : ∀ link, Happening.Agree link orders orders') : second.roads = first.roads := by
  have distinct' := (perm.filterMap Happening.touched?).nodup_iff.mpr distinct
  have undue' : ∀ happening ∈ orders', happening.departure? = none := fun happening member =>
    undue happening (perm.mem_iff.mp member)
  have inLine {orders : List Happening} {after : Traffic Rat}
      (steps : Steps table context before orders after) : after.roads.InLine :=
    steps.preserves (fun traffic => traffic.roads.InLine) Step.inLine barrier.inLine
  have accounted {orders : List Happening} {after : Traffic Rat}
      (steps : Steps table context before orders after) : after.roads.Accounted :=
    Roads.Accounted.enduring.steps barrier.accounted steps
  have inbound {orders : List Happening} {after : Traffic Rat}
      (steps : Steps table context before orders after) :
      after.roads.inbound = before.roads.inbound :=
    steps.preserves (fun traffic => traffic.roads.inbound = before.roads.inbound)
      (fun same step => step.inbound.trans same) rfl
  refine Roads.eq_of_queue? (fun link => ?_) ((inbound steps').trans (inbound steps).symm)
    (steps'.rules.trans steps.rules.symm)
  cases present : before.roads.queue? link with
  | none =>
      have same := Roads.queue?_of_map_eq steps.emptied link
      have same' := Roads.queue?_of_map_eq steps'.emptied link
      rw [present, Option.map_none, Option.map_eq_none_iff] at same same'
      rw [same, same']
  | some queue =>
      obtain ⟨one, found, makes⟩ :=
        steps.makes barrier.placed barrier.strict barrier.weighs distinct undue present
      obtain ⟨other, found', makes'⟩ :=
        steps'.makes barrier.placed barrier.strict barrier.weighs distinct' undue' present
      rw [found, found', makes.unique makes' (agree link) (inLine steps link one found)
        (inLine steps' link other found') (accounted steps link one found)
        (accounted steps' link other found')]

end Traffic

end MixedTraffic

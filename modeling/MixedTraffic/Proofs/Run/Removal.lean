import MixedTraffic.Proofs.Run.Holdup

namespace MixedTraffic

variable {α : Type}

/-! Who is taken off a link, and when. -/

namespace Roads

variable {roads : Roads α} {queue queue' : LinkQueue α}

theorem blockedSince?_eq_some {id : AgentId} {since : Tick} :
    queue.blockedSince? id = some since ↔ queue.blocked = some (id, since) := by
  unfold LinkQueue.blockedSince?
  cases queue.blocked with
  | none => simp
  | some entry =>
      obtain ⟨agent, tick⟩ := entry
      by_cases same : agent = id <;> simp [same]

theorem isStuck_iff (positive : ∀ limit, roads.stuckTicks = some limit → 0 < limit)
    {id : AgentId} {now : Tick} :
    roads.isStuck queue id now = true ↔ ∃ limit since, roads.stuckTicks = some limit ∧
      queue.blocked = some (id, since) ∧ since + limit ≤ now := by
  unfold isStuck
  cases limited : roads.stuckTicks with
  | none => simp
  | some limit =>
      have positive := positive limit limited
      simp only [Option.any_some, decide_eq_true_eq, Option.some.injEq, exists_and_left,
        exists_eq_left', ← blockedSince?_eq_some]
      cases queue.blockedSince? id with
      | none => simp [positive.ne']
      | some since =>
          have waits (since now : Nat) : limit ≤ now - since ↔ since + limit ≤ now := by omega
          rw [Option.getD_some, waits]
          constructor
          · intro waited
            exact ⟨since, rfl, waited⟩
          · rintro ⟨_, ⟨⟩, waited⟩
            exact waited

theorem isStuck_congr (same : queue'.blocked = queue.blocked) (id : AgentId) (now : Tick) :
    roads.isStuck queue' id now = roads.isStuck queue id now := by
  simp only [isStuck, LinkQueue.blockedSince?, same]

end Roads

variable [Quantity α]

theorem Dynamics.stuckTicks_pos {dynamics : Dynamics α} {table : ModeTable α}
    (checked : dynamics.check table = .ok ()) {tickSecs limit : Nat}
    (limited : dynamics.stuckTicks tickSecs = some limit) : 0 < limit := by
  obtain ⟨secs, given, rfl⟩ := Option.map_eq_some_iff.mp limited
  have enough := Tick.le_covering_mul (Nat.le_max_right tickSecs 1) secs
  have positive : secs ≠ 0 := by
    rintro rfl
    simp only [check, given, Attempt.bind_eq_ok, ConfigError.require_eq_ok] at checked
    obtain ⟨-, -, -, ⟨absurd, -⟩, -⟩ := checked
  refine Nat.pos_of_ne_zero fun zero => positive ?_
  rw [zero, Nat.zero_mul] at enough
  exact Nat.le_zero.mp enough

namespace Passage

variable {passage : Passage α} {first : Network α} {tickSecs : Nat} {link : LinkId}
  {queue seen queue' : LinkQueue α} {service : Service α} {id : AgentId}

theorem notMem_of_gaveUp (regular : passage.world.Regular first tickSecs) {other : LinkId}
    (gaveUp : .gaveUp id other ∈ passage.course.happenings)
    (present : passage.world.roads.queue? link = some queue) :
    id ∉ queue.vehicles.map (·.agent) := by
  intro rides
  obtain ⟨vehicle, member, rfl⟩ := List.mem_map.mp rides
  have due : .gaveUp vehicle.agent other ∈ passage.course.departures := by
    refine (List.mem_append.mp gaveUp).resolve_right fun ordered => ?_
    obtain ⟨decision, -, order⟩ := List.mem_flatMap.mp ordered
    cases Happening.departure?_of_mem_orders order
  obtain ⟨done, later, parts⟩ := List.append_of_mem due
  have steps := passage.follows.departed
  rw [parts] at steps
  obtain ⟨traffic, before, after⟩ := Traffic.Steps.of_append steps
  -- Its vehicle is still there, so that its trip is not one that has yet to begin.
  obtain ⟨old, found, lineup⟩ :=
    Roads.lineup_of_lineups (World.refilled_lineups passage.follows.changed).symm present
  obtain ⟨there, here, becomes⟩ := before.becomes (passage.placed regular) found
  have stays : Happening.Remains link done vehicle.agent := fun happening listed =>
    passage.remains_departures link vehicle.agent happening
      (parts ▸ List.mem_append_left _ listed)
  have vehicles : queue.vehicles = old.vehicles := congrArg Lineup.vehicles lineup
  have aboard := becomes.stays vehicle (vehicles ▸ member) stays
  have placed := (passage.placed regular).steps before
  have riding := (Roads.mem_fleet placed.labelled).mpr ⟨there, here, aboard⟩
  cases after with
  | cons step _ =>
      cases step with
      | gaveUp found _ _ waits =>
          obtain ⟨place, shows⟩ := placed.shown found
          have listed := (shows.pending_of_wait waits).2.2.1
          rw [(shows.enRoute_of_mem riding rfl).2.1] at listed
          cases listed

/-- Who gets stuck on a link that it is on is taken off it. -/
theorem stuck_iff_removed (regular : passage.world.Regular first tickSecs)
    (present : passage.world.roads.queue? link = some queue)
    (rides : id ∈ queue.vehicles.map (·.agent)) :
    ⟨passage.tick, .stuck, id, link⟩ ∈ passage.interval.events.toList ↔
      .removed id link ∈ passage.course.happenings := by
  rw [passage.events_eq, List.mem_flatMap]
  constructor
  · rintro ⟨happening, listed, told⟩
    cases happening with
    | gaveUp other source =>
        simp only [Happening.events, List.mem_singleton, Event.mk.injEq, true_and] at told
        obtain ⟨rfl, rfl⟩ := told
        exact absurd rides (notMem_of_gaveUp regular listed present)
    | removed other source =>
        simp only [Happening.events, List.mem_singleton, Event.mk.injEq, true_and] at told
        obtain ⟨rfl, rfl⟩ := told
        exact listed
    | departed | skipped | turnedAway | transferred | arrived | heldUp =>
        simp [Happening.events] at told
  · intro listed
    exact ⟨_, listed, List.mem_singleton_self _⟩

theorem removed_iff_stuck (regular : passage.world.Regular first tickSecs) (sound : first.Sound)
    (listed : service ∈ passage.services) :
    .removed id service.link ∈ passage.course.happenings ↔
      .stuck service.link id ∈ service.plan.moves := by
  have orders := filter_happenings regular sound listed
  constructor
  · intro removed
    have served : .removed id service.link ∈ service.orders := by
      rw [← orders]
      exact List.mem_filter.mpr ⟨removed, decide_eq_true rfl⟩
    obtain moved | marked := List.mem_append.mp served
    · obtain ⟨move, planned, same⟩ := List.mem_map.mp moved
      cases move <;> cases same
      exact planned
    · obtain ⟨entry, -, same⟩ := List.mem_map.mp marked
      cases same
  · intro planned
    refine List.mem_of_mem_filter (p := (·.served? = some service.link)) ?_
    rw [orders]
    exact List.mem_append_left _ (List.mem_map_of_mem planned)

/-- Of a link, only the first vehicle turned away is taken off, when it has been for too
long. -/
theorem Tracks.removed_iff (tracks : passage.Tracks service queue seen queue')
    (regular : passage.world.Regular first tickSecs) (sound : first.Sound) :
    .removed id service.link ∈ passage.course.happenings ↔
      ∃ vehicle, passage.TurnsFirst service.link vehicle ∧ vehicle.agent = id ∧
        passage.course.midway.roads.isStuck queue id passage.tick = true := by
  rw [removed_iff_stuck regular sound tracks.listed]
  have turnsFirst := tracks.turnsFirst_iff regular sound
  obtain ⟨gone, rest, leading, trailing, serving⟩ := tracks.exists_serving regular
  obtain ⟨present, -, -, vehicles, moves, agents, on, ends⟩ := serving
  obtain ⟨pending, placed⟩ := placed_midway regular
  have label : seen.link = service.link := placed.labelled _ _ present
  have blocked : seen.blocked = queue.blocked := tracks.midway_blocked
  have stays {move : Move} (taken : move.movesOn = false) : move ∉ leading := fun leads => by
    rw [on move leads] at taken
    cases taken
  rw [moves, List.mem_append, or_iff_right (stays rfl)]
  generalize service.plan.blocked = mark, service.refused = refused at ends turnsFirst
  cases ends with
  | quiet =>
      refine iff_of_false List.not_mem_nil ?_
      rintro ⟨vehicle, turned, -⟩
      cases (turnsFirst vehicle).mp turned
  | @stuck front behind ready overdue =>
      rw [List.mem_singleton, label, Move.stuck.injEq, and_iff_right rfl]
      rw [Roads.isStuck_congr blocked] at overdue
      constructor
      · rintro rfl
        exact ⟨front, (turnsFirst front).mpr rfl, rfl, overdue⟩
      · rintro ⟨vehicle, turned, rfl, -⟩
        cases (turnsFirst vehicle).mp turned
        rfl
  | @held front behind turned _ _ patient seeping =>
      rw [Roads.isStuck_congr blocked] at patient
      refine iff_of_false (fun trails => ?_) ?_
      · cases (seeping _ trails).1
      · rintro ⟨vehicle, turned, rfl, overdue⟩
        cases (turnsFirst vehicle).mp turned
        rw [patient] at overdue
        cases overdue

/-- On the roads of a passage, a vehicle is found stuck on a link if it is the first turned away
and the record has named it for long enough. -/
theorem stuck_iff_named (regular : passage.world.Regular first tickSecs) (sound : first.Sound)
    (positive : ∀ limit, passage.world.roads.stuckTicks = some limit → 0 < limit)
    (present : passage.world.roads.queue? link = some queue) :
    (id ∈ queue.vehicles.map (·.agent) ∧
        ⟨passage.tick, .stuck, id, link⟩ ∈ passage.interval.events.toList) ↔
      ∃ limit since vehicle, passage.world.roads.stuckTicks = some limit ∧
        passage.TurnsFirst link vehicle ∧ vehicle.agent = id ∧
        queue.blocked = some (id, since) ∧ since + limit ≤ passage.tick := by
  obtain ⟨service, seen, last, rfl, tracks⟩ := exists_tracks regular sound present
  have limits : passage.course.midway.roads.stuckTicks = passage.world.roads.stuckTicks :=
    Roads.stuckTicks_eq_of_rules passage.rules_midway
  have overdue := @Roads.isStuck_iff _ passage.course.midway.roads queue (limits ▸ positive) id
    passage.tick
  rw [limits] at overdue
  constructor
  · rintro ⟨rides, stuck⟩
    obtain ⟨vehicle, turned, own, isStuck⟩ :=
      (tracks.removed_iff regular sound).mp ((stuck_iff_removed regular present rides).mp stuck)
    obtain ⟨limit, since, limited, blocked, waited⟩ := overdue.mp isStuck
    exact ⟨limit, since, vehicle, limited, turned, own, blocked, waited⟩
  · rintro ⟨limit, since, vehicle, limited, turned, rfl, blocked, waited⟩
    have rides : vehicle.agent ∈ queue.vehicles.map (·.agent) :=
      List.mem_map_of_mem (tracks.turned regular sound turned).1
    have isStuck := overdue.mpr ⟨limit, since, limited, blocked, waited⟩
    exact ⟨rides, (stuck_iff_removed regular present rides).mpr
      ((tracks.removed_iff regular sound).mpr ⟨vehicle, turned, rfl, isStuck⟩)⟩

theorem Reaches.keeps_record {passages : List (Passage α)} {done : List Happening}
    {traffic : Traffic α} {since : Tick} (reaches : passage.Reaches done traffic)
    (regular : passage.world.Regular first tickSecs) (sound : first.Sound)
    (recalls : Recalls passages link queue)
    (present : passage.world.roads.queue? link = some queue)
    (here : traffic.roads.queue? link = some queue')
    (blocked : queue.blocked = some (id, since)) (stays : Happening.Remains link done id) :
    queue'.blocked = some (id, since) := by
  obtain ⟨service, seen, last, rfl, tracks⟩ := exists_tracks regular sound present
  obtain ⟨old, found, -, becomes⟩ := reaches.becomes regular here
  obtain ⟨again, present', lineup⟩ :=
    Roads.lineup_of_lineups (World.refilled_lineups passage.follows.changed) found
  cases present.symm.trans present'
  have same : old.blocked = queue.blocked := congrArg Lineup.blocked lineup
  rw [becomes.blocked, same]
  exact tracks.keeps regular sound recalls (regular.inLine _ _ present) reaches.within blocked
    stays

theorem Recalls.blocked_iff {passages : List (Passage α)} {since : Tick}
    (recalls : Recalls passages link queue) (ordered : queue.Ordered)
    (distinct : (queue.vehicles.map (·.agent)).Nodup) :
    queue.blocked = some (id, since) ↔
      ∃ front, queue.vehicles.head? = some front ∧ front.agent = id ∧
        IsLeast (turnedAt passages link front) since := by
  constructor
  · intro blocked
    obtain ⟨front, member, own, foremost, -, least⟩ := recalls.front blocked
    exact ⟨front, ordered.head?_eq_some member foremost, own, least⟩
  · rintro ⟨front, head, rfl, least⟩
    have member := List.mem_of_head? head
    have named := recalls.named front member ⟨since, least.1⟩
    obtain ⟨⟨id, since'⟩, blocked, same⟩ := Option.map_eq_some_iff.mp named
    obtain rfl : id = front.agent := same
    obtain ⟨other, member', own, -, -, least'⟩ := recalls.front blocked
    cases List.inj_on_of_nodup_map distinct member' member own
    rw [blocked, least'.unique least]

end Passage

namespace World.Passes

variable {start world : World α} {passages : List (Passage α)} {first : Network α}
  {tickSecs : Nat}

theorem tick_lt (passes : start.Passes passages world) :
    ∀ passage ∈ passages, passage.tick < world.clock.now := by
  induction passes with
  | start => exact List.forall_mem_nil _
  | @step passages passage _ ih =>
      rw [passage.clock_next]
      intro before listed
      obtain earlier | last := List.mem_append.mp listed
      · exact Nat.lt_succ_of_lt (ih before earlier)
      · rw [List.mem_singleton.mp last]
        exact Nat.lt_succ_self _

theorem recalls (passes : start.Passes passages world) (regular : start.Regular first tickSecs)
    (sound : first.Sound)
    (empty : ∀ link queue, start.roads.queue? link = some queue →
      queue.vehicles = [] ∧ queue.blocked = none)
    {link : LinkId} {queue : LinkQueue α} (present : world.roads.queue? link = some queue) :
    Passage.Recalls passages link queue := by
  induction passes generalizing queue with
  | start =>
      obtain ⟨vehicles, blocked⟩ := empty link queue present
      refine ⟨fun {id since} named => ?_, fun vehicle member => ?_, ?_⟩
      · rw [blocked] at named
        cases named
      · rw [vehicles] at member
        cases member
      · rintro vehicle tick ⟨passage, listed, -⟩
        cases listed
  | @step passages passage before ih =>
      -- What the record says is carried through the passage with the queue that was there before.
      have regular := regular.run before.run
      have sites : passage.interval.next.roads.sites = passage.world.roads.sites :=
        (Enduring.sites passage.world.roads).interval rfl
          (World.interval_eq_ok.mpr ⟨_, passage.follows, rfl⟩)
      obtain ⟨old, found, -⟩ := Roads.site_eq_of_sites sites present
      obtain ⟨service, seen, queue', rfl, tracks⟩ := Passage.exists_tracks regular sound found
      cases present.symm.trans tracks.final
      exact (ih found).step (regular.inLine _ _ found) (tracks.turnover regular sound)
        before.tick_lt

end World.Passes

/-- The record of a link names its front vehicle, if that has ever been the first of the link
to be turned away by a full downstream link, and the first interval in which it was; others
that come, seep past or leave do not change it. A vehicle is taken off its link exactly if it
is the first to be turned away and was so for the first time a given number of intervals ago
or earlier. -/
theorem Sim.Run.stuck_at_front {σ : Type} {setup : SimSetup α σ} {start sim : Sim α σ}
    {history : List (Interval α)} {roads : NetworkDraft α} {draft : PopulationDraft}
    {table : ModeTable α} (connected : roads.build = .ok setup.network)
    (drafted : draft.Drafted) (populated : draft.build table = .ok setup.population)
    (built : setup.build = .ok start) (run : Sim.Run start history sim) :
    ∃ passages, start.world.Passes passages sim.world ∧
      passages.map (·.interval) = history ∧
      ∀ link queue, sim.world.roads.queue? link = some queue →
        (∀ id since, queue.blocked = some (id, since) ↔
          ∃ front, queue.vehicles.head? = some front ∧ front.agent = id ∧
            IsLeast (Passage.turnedAt passages link front) since) ∧
        (∀ front, queue.vehicles.head? = some front →
          ∀ tick ∈ Passage.turnedAt passages link front, front.exitTick ≤ tick) ∧
        ∀ passage : Passage α, passage.world = sim.world →
          (∀ done traffic queue' id since, passage.Reaches done traffic →
            traffic.roads.queue? link = some queue' → queue.blocked = some (id, since) →
            Happening.Remains link done id → queue'.blocked = some (id, since)) ∧
          ∀ id, (id ∈ queue.vehicles.map (·.agent) ∧
              ⟨passage.tick, .stuck, id, link⟩ ∈ passage.interval.events.toList) ↔
            ∃ limit since vehicle,
              setup.dynamics.stuckTicks setup.config.tickSecs = some limit ∧
              passage.TurnsFirst link vehicle ∧ vehicle.agent = id ∧
              queue.blocked = some (id, since) ∧ since + limit ≤ passage.tick := by
  have sound := Network.sound_of_build connected
  have regular := World.Regular.of_build built (drafted.fresh_of_build populated)
  have opened := (SimSetup.build_eq_ok built).opened
  obtain ⟨passages, passes, rfl⟩ := World.Passes.of_run run.world
  refine ⟨passages, passes, rfl, fun link queue present => ?_⟩
  have later := regular.run passes.run
  have recalls := passes.recalls regular sound
    (fun _ _ found => Roads.empty_of_ofNetwork opened found) present
  have distinct : (queue.vehicles.map (·.agent)).Nodup :=
    later.placed.traffic.nodup_agents present
  have limits : sim.world.roads.stuckTicks =
      setup.dynamics.stuckTicks setup.config.tickSecs := by
    rw [Roads.stuckTicks_eq_of_rules ((Enduring.rules start.world.roads).run rfl passes.run)]
    obtain ⟨-, roads⟩ := Roads.ofNetwork_eq_ok.mp opened
    rw [roads]
  have positive : ∀ limit, sim.world.roads.stuckTicks = some limit → 0 < limit :=
    fun _ limited => Dynamics.stuckTicks_pos (Roads.ofNetwork_eq_ok.mp opened).1
      (limits ▸ limited)
  refine ⟨fun id since => recalls.blocked_iff (later.inLine link queue present) distinct,
    fun front _ tick turned => recalls.past front tick turned, fun passage reached => ?_⟩
  rw [← reached] at present later positive limits
  refine ⟨fun done traffic queue' id since reaches here blocked stays =>
    reaches.keeps_record later sound recalls present here blocked stays, fun id => ?_⟩
  rw [← limits]
  exact Passage.stuck_iff_named later sound positive present

/-- A vehicle that has been turned away is turned away again and taken off its link. -/
theorem Bottleneck.stuck_at_front_of_one :
    ∃ network population start sim history passages queue front,
      ∃ passage : Passage Rat, draft.build = .ok network ∧
      (crowd [(narrow, 0, [entry, exit]), (narrow, 1, [exit]), (narrow, 1, [exit]),
        (narrow, 1, [exit])]).build table = .ok population ∧
      { setup network population with dynamics := { stuckSecs := some 1 } }.build = .ok start ∧
      Sim.Run start history sim ∧ start.world.Passes passages sim.world ∧
      sim.world.roads.queue? entry = some queue ∧ queue.vehicles.head? = some front ∧
      front.agent = ⟨0⟩ ∧ IsLeast (Passage.turnedAt passages entry front) 1 ∧
      passage.world = sim.world ∧ passage.tick = 2 ∧
      ⟨2, .stuck, ⟨0⟩, entry⟩ ∈ passage.interval.events.toList ∧
      ∃ vehicle, passage.TurnsFirst entry vehicle ∧ vehicle.agent = ⟨0⟩ := by
  have ran : drive? draft [(narrow, 0, [entry, exit]), (narrow, 1, [exit]), (narrow, 1, [exit]),
      (narrow, 1, [exit])]
      (fun network population => { setup network population with
        dynamics := { stuckSecs := some 1 } }) 2
      (fun _ _ _ sim =>
        (sim.world.roads.queue? entry).bind fun (queue : LinkQueue Rat) =>
        (sim.world.interval sim.flowPermanent).toOption.map fun (interval : Interval Rat) =>
          (queue.blocked, queue.vehicles.map Vehicle.agent, sim.world.clock.now,
            decide ((⟨2, .stuck, ⟨0⟩, entry⟩ : Event) ∈ interval.events.toList))) =
      some (some ((⟨0⟩ : AgentId), 1), [⟨0⟩], 2, true) := by decide +kernel
  obtain ⟨network, population, start, sim, history, connected, populated, built, -, run, seen⟩ :=
    exists_of_drive? ran
  simp only [Option.bind_eq_some_iff, Option.map_eq_some_iff, Attempt.toOption_eq_some,
    Prod.mk.injEq, decide_eq_true_eq] at seen
  obtain ⟨queue, present, interval, simulated, blocked, aboard, now, stuck⟩ := seen
  obtain ⟨passages, passes, -, law⟩ :=
    Sim.Run.stuck_at_front connected (crowd_drafted _) populated built run
  obtain ⟨record, -, later⟩ := law entry queue present
  obtain ⟨front, head, own, least⟩ := (record ⟨0⟩ 1).mp blocked
  obtain ⟨passage, reached, -, rfl⟩ := World.exists_passage simulated
  have tick : passage.tick = 2 := by
    rw [Passage.tick, reached, now]
  have removed := ((later passage reached).2 ⟨0⟩).mp ⟨by simp [aboard], tick ▸ stuck⟩
  obtain ⟨-, -, vehicle, -, turned, named, -⟩ := removed
  exact ⟨network, population, start, sim, _, passages, queue, front, passage, connected,
    populated, built, run, passes, present, head, own, least, reached, tick, stuck, vehicle,
    turned, named⟩

end MixedTraffic

import MixedTraffic.Proofs.Run.Precedence
import MixedTraffic.Proofs.Run.Journey
import MixedTraffic.Proofs.Run.Accounts

namespace MixedTraffic

/-! Who comes onto a link and who goes, in their order. -/

/-- The agents that came onto a link. -/
def entries (link : LinkId) (events : List Event) : List AgentId :=
  (events.filter fun event => event.kind = .linkEntered ∧ event.link = link).map (·.agent)

/-- Whether an agent has ever entered a link. -/
def boarded (events : List Event) (id : AgentId) : Bool :=
  events.any fun event => event.kind = .linkEntered ∧ event.agent = id

/-- Whether an event is that of a vehicle that leaves a link or is taken off it. Who is stuck
without ever having entered a link has only given up to depart. -/
def Event.Exits (boarded : AgentId → Bool) (link : LinkId) (event : Event) : Prop :=
  event.link = link ∧
    (event.kind = .linkLeft ∨ event.kind = .stuck ∧ boarded event.agent = true)

instance (boarded : AgentId → Bool) (link : LinkId) (event : Event) :
    Decidable (event.Exits boarded link) :=
  inferInstanceAs (Decidable (_ ∧ _))

def exits (link : LinkId) (events : List Event) : List AgentId :=
  (events.filter fun event => event.Exits (boarded events) link).map (·.agent)

namespace Happening

def coming (link : LinkId) (happenings : List Happening) : List AgentId :=
  (happenings.filter (·.enters? = some link)).map (·.agent)

def going (link : LinkId) (happenings : List Happening) : List AgentId :=
  (happenings.filter (·.leaves? = some link)).map (·.agent)

/-- That somebody who is stuck is known to have entered a link, or not to have. -/
structure Discerns (boarded : AgentId → Bool) (happenings : List Happening) : Prop where
  refused : ∀ id link, gaveUp id link ∈ happenings → boarded id = false
  removed : ∀ id link, removed id link ∈ happenings → boarded id = true

variable {link : LinkId} {happenings first second : List Happening}

theorem coming_append :
    coming link (first ++ second) = coming link first ++ coming link second := by
  rw [coming, List.filter_append, List.map_append]
  rfl

theorem going_append :
    going link (first ++ second) = going link first ++ going link second := by
  rw [going, List.filter_append, List.map_append]
  rfl

theorem entered_of_events (link : LinkId) (now : Tick) (happenings : List Happening) :
    entries link (happenings.flatMap (·.events now)) = coming link happenings := by
  rw [entries, List.filter_flatMap, List.map_flatMap, coming]
  induction happenings with
  | nil => rfl
  | cons happening rest ih =>
      rw [List.flatMap_cons, ih, List.filter_cons]
      cases happening <;> simp [events, enters?, agent, List.filter_cons]
      all_goals split <;> rfl

theorem Discerns.exited_of_events {boarded : AgentId → Bool}
    (discerns : Discerns boarded happenings) (link : LinkId) (now : Tick) :
    ((happenings.flatMap (·.events now)).filter fun event =>
      event.Exits boarded link).map (·.agent) = going link happenings := by
  rw [List.filter_flatMap, List.map_flatMap, going]
  induction happenings with
  | nil => rfl
  | cons happening rest ih =>
      obtain ⟨refused, removed⟩ := discerns
      have later : Discerns boarded rest :=
        ⟨fun id link member => refused id link (List.mem_cons_of_mem _ member),
          fun id link member => removed id link (List.mem_cons_of_mem _ member)⟩
      rw [List.flatMap_cons, ih later, List.filter_cons]
      cases happening with
      | gaveUp id other =>
          have known := refused id other List.mem_cons_self
          simp [events, leaves?, Event.Exits, known]
      | removed id other =>
          have known := removed id other List.mem_cons_self
          simp [events, leaves?, agent, Event.Exits, known, List.filter_cons]
          split <;> rfl
      | departed | skipped | turnedAway | transferred | arrived | heldUp =>
          simp [events, leaves?, agent, Event.Exits, List.filter_cons]
          try (split <;> rfl)

end Happening

namespace Journey

structure Settles (happenings : List Happening) (journeys : AgentId → Journey) : Prop where
  refused : ∀ id link, .gaveUp id link ∈ happenings → ∃ first time,
    journeys id = .refused first time
  removed : ∀ id link, .removed id link ∈ happenings → ∃ first later time,
    journeys id = .along first later (some (.removed time))

end Journey

variable {α : Type}

namespace Journey.Settles

variable {done happenings : List Happening} {heard : List Event} {journeys : AgentId → Journey}

theorem discerns (settles : Settles done journeys)
    (own : ∀ id, heard.filter (·.agent = id) = (journeys id).events id) :
    Happening.Discerns (boarded heard) done := by
  have same (id : AgentId) : boarded heard id =
      ((journeys id).events id).any (·.kind = .linkEntered) := by
    rw [← own id, boarded, List.any_filter]
    congr 1
    funext event
    rw [Bool.decide_and, Bool.and_comm]
  constructor
  · intro id link member
    obtain ⟨first, time, journey⟩ := settles.refused id link member
    rw [same, journey]
    rfl
  · intro id link member
    obtain ⟨first, later, time, journey⟩ := settles.removed id link member
    rw [same, journey]
    rfl

variable [Quantity α] {table : ModeTable α} {context : RouteContext}
  {traffic traffic' : Traffic α} {happening : Happening} {pending : List AgentId}

theorem after_of_over (recorded : Recorded heard traffic.roads traffic.population journeys)
    (placed : traffic.Placed pending)
    (step : Traffic.Step table context traffic happening traffic')
    (closed : (∃ link time, journeys happening.agent = .refused link time) ∨
      ∃ first later time, journeys happening.agent =
        .along first later (some (.removed time))) :
    (journeys happening.agent).after context.now happening = journeys happening.agent := by
  have told := congrArg List.length (recorded.step_self placed step).1
  obtain ⟨link, time, closed⟩ | ⟨first, later, time, closed⟩ := closed <;> rw [closed] at told ⊢ <;>
    cases happening <;> simp [after, events, Happening.events, passing, closing] at told ⊢

theorem step (settles : Settles done journeys)
    (recorded : Recorded heard traffic.roads traffic.population journeys)
    (placed : traffic.Placed pending)
    (step : Traffic.Step table context traffic happening traffic') :
    Settles (done ++ [happening]) (tell context.now journeys happening) := by
  have kept {id : AgentId} (closed : (∃ link time, journeys id = .refused link time) ∨
      ∃ first later time, journeys id = .along first later (some (.removed time))) :
      tell context.now journeys happening id = journeys id := by
    unfold tell
    by_cases own : id = happening.agent
    · subst own
      rw [Function.update_self]
      exact after_of_over recorded placed step closed
    · rw [Function.update_of_ne own]
  constructor
  · intro id link member
    obtain earlier | last := List.mem_append.mp member
    · rw [kept (.inl (settles.refused id link earlier))]
      exact settles.refused id link earlier
    · cases List.mem_singleton.mp last
      exact ⟨link, context.now, Function.update_self ..⟩
  · intro id link member
    obtain earlier | last := List.mem_append.mp member
    · rw [kept (.inr (settles.removed id link earlier))]
      exact settles.removed id link earlier
    · cases List.mem_singleton.mp last
      cases step with
      | removed present aboard found =>
          obtain ⟨first, later, -, journey, -⟩ :=
            recorded.along_of_aboard placed found present aboard
          refine ⟨first, later, context.now, ?_⟩
          rw [tell, Happening.agent, Function.update_self, journey]
          rfl

theorem steps (settles : Settles done journeys)
    (recorded : Recorded heard traffic.roads traffic.population journeys)
    (placed : traffic.Placed pending)
    (steps : Traffic.Steps table context traffic happenings traffic') :
    Settles (done ++ happenings) (happenings.foldl (tell context.now) journeys) := by
  induction steps generalizing done heard pending journeys with
  | nil => simpa using settles
  | cons step _ ih =>
      have later := ih (settles.step recorded placed step) (recorded.step placed step)
        (placed.step step)
      simpa using later

end Journey.Settles

namespace LinkQueue

variable {link : LinkId} {queue queue' : LinkQueue α}

/-- That vehicles have come and gone at a queue, each behind those that came before. -/
structure Advances (link : LinkId) (happenings : List Happening) (queue queue' : LinkQueue α) :
    Prop where
  fifo : queue'.passing = false
  agents : queue.vehicles.map (·.agent) ++ Happening.coming link happenings =
    Happening.going link happenings ++ queue'.vehicles.map (·.agent)

theorem Advances.start (fifo : queue.passing = false)
    (same : queue'.vehicles = queue.vehicles) (like : queue'.passing = queue.passing) :
    queue.Advances link [] queue' := by
  refine ⟨like.trans fifo, ?_⟩
  rw [same]
  exact List.append_nil _

theorem Advances.append {between : LinkQueue α} {done later : List Happening}
    (first : queue.Advances link done between) (second : between.Advances link later queue') :
    queue.Advances link (done ++ later) queue' := by
  refine ⟨second.fifo, ?_⟩
  rw [Happening.coming_append, ← List.append_assoc, first.agents, List.append_assoc,
    second.agents, Happening.going_append, List.append_assoc]

end LinkQueue

variable [Quantity α]

namespace World.Passes

variable {start world : World α} {passages : List (Passage α)}

/-- All that happens in some passages. -/
def happenings (passages : List (Passage α)) : List Happening :=
  passages.flatMap (·.course.happenings)

theorem heard_eq (passages : List (Passage α)) :
    heard (passages.map (·.interval)) = passages.flatMap fun passage =>
      passage.course.happenings.flatMap (·.events passage.tick) := by
  rw [heard, List.flatMap_map]
  exact List.flatMap_congr fun passage _ => passage.events_eq

theorem entries_eq (link : LinkId) (passages : List (Passage α)) :
    entries link (heard (passages.map (·.interval))) =
      Happening.coming link (happenings passages) := by
  rw [heard_eq, entries, List.filter_flatMap, List.map_flatMap, Happening.coming, happenings,
    List.filter_flatMap, List.map_flatMap]
  exact List.flatMap_congr fun passage _ => Happening.entered_of_events ..

theorem exits_eq (passages : List (Passage α))
    (discerns : Happening.Discerns (boarded (heard (passages.map (·.interval))))
      (happenings passages)) (link : LinkId) :
    exits link (heard (passages.map (·.interval))) =
      Happening.going link (happenings passages) := by
  rw [exits]
  generalize boarded (heard (passages.map (·.interval))) = known at discerns
  rw [heard_eq, List.filter_flatMap, List.map_flatMap, Happening.going, happenings,
    List.filter_flatMap, List.map_flatMap]
  refine List.flatMap_congr fun passage member => Happening.Discerns.exited_of_events ?_ ..
  have among {happening : Happening} (listed : happening ∈ passage.course.happenings) :
      happening ∈ happenings passages := List.mem_flatMap.mpr ⟨passage, member, listed⟩
  exact ⟨fun id link listed => discerns.refused id link (among listed),
    fun id link listed => discerns.removed id link (among listed)⟩

theorem exists_settles (passes : start.Passes passages world) (placed : start.Placed)
    {journeys : AgentId → Journey}
    (recorded : Recorded [] start.roads start.population journeys) :
    ∃ journeys, Recorded (heard (passages.map (·.interval))) world.roads world.population
      journeys ∧ Journey.Settles (happenings passages) journeys := by
  induction passes with
  | start => exact ⟨journeys, recorded, ⟨nofun, nofun⟩⟩
  | @step passages passage before ih =>
      obtain ⟨journeys, recorded, settles⟩ := ih
      have placed := placed.run before.run
      have later := recorded.interval placed passage.follows
      have like := World.refilled_like passage.follows.changed
      have population : passage.course.changed.refilled.population = passage.world.population :=
        passage.follows.revises.population
      have begins : Recorded (heard (passages.map (·.interval)))
          passage.course.changed.refilled.roads passage.course.changed.refilled.population
          journeys := by
        rw [population]
        exact recorded.of_like like
      have ends := settles.steps begins
        (placed.traffic.of_perm (.refl _) like population) passage.follows.steps
      rw [happenings, List.flatMap_append, List.flatMap_singleton, List.map_append, heard_append,
        List.map_singleton, heard_singleton]
      exact ⟨_, later, ends⟩

end World.Passes

namespace LinkQueue

variable {link : LinkId} {now : Tick} {happening : Happening} {traffic : Traffic α}
  {queue queue' : LinkQueue α}

theorem Loses.queueing (loses : queue.Loses link happening queue')
    (first : ∀ vehicle ∈ queue.vehicles, happening.leaves? = some link →
      vehicle.agent = happening.agent → queue.vehicles.head? = some vehicle) :
    queue.vehicles.map (·.agent) =
      Happening.going link [happening] ++ queue'.vehicles.map (·.agent) := by
  cases loses with
  | same apart => simp [Happening.going, apart]
  | @left vehicle leaves aboard =>
      have own : vehicle.agent = happening.agent := by simpa using List.find?_some aboard
      obtain ⟨rest, split⟩ := List.head?_eq_some_iff.mp
        (first vehicle (List.mem_of_find?_eq_some aboard) leaves own)
      simp [Happening.going, leaves, releasing, split, own]

theorem Admits.queueing (admits : queue.Admits link now happening traffic queue')
    (fifo : queue.passing = false) :
    queue'.vehicles.map (·.agent) =
      queue.vehicles.map (·.agent) ++ Happening.coming link [happening] := by
  cases admits with
  | same apart => simp [Happening.coming, apart]
  | joined enters own => simp [Happening.coming, enters, holding, place, fifo, own]

end LinkQueue

theorem Traffic.Turns.advances {context : RouteContext} {traffic : Traffic α}
    {happening : Happening} {link : LinkId} {queue queue' : LinkQueue α}
    (turns : traffic.Turns context happening link queue queue') (fifo : queue.passing = false)
    (first : ∀ vehicle ∈ queue.vehicles, happening.leaves? = some link →
      vehicle.agent = happening.agent → queue.vehicles.head? = some vehicle) :
    queue.Advances link [happening] queue' := by
  obtain ⟨loses, admits, notes⟩ := turns
  have left := loses.frame.1.trans fifo
  refine ⟨notes.frame.1.trans (admits.frame.1.trans left), ?_⟩
  rw [loses.queueing first, List.append_assoc, notes.frame.2.2, admits.queueing left]

namespace Passage

variable {passage : Passage α} {first : Network α} {tickSecs : Nat} {link : LinkId}
  {queue : LinkQueue α} {happening : Happening} {done : List Happening} {traffic : Traffic α}

theorem Reaches.head?_of_leaves (reaches : passage.Reaches done traffic)
    (regular : passage.world.Regular first tickSecs) (sound : first.Sound)
    (strict : ∀ mode, passage.course.midway.roads.seeps mode = false)
    (next : done ++ [happening] <+: passage.course.happenings)
    (leaves : happening.leaves? = some link) (present : traffic.roads.queue? link = some queue)
    {vehicle : Vehicle α} (member : vehicle ∈ queue.vehicles)
    (own : vehicle.agent = happening.agent) : queue.vehicles.head? = some vehicle := by
  have ordered := reaches.inLine regular link queue present
  refine ordered.head?_eq_some member fun other member' ahead => ?_
  have seeps := (reaches.seeps_of_leaves regular sound next leaves present member own member'
    ahead).1
  rw [strict] at seeps
  cases seeps

theorem advances (regular : passage.world.Regular first tickSecs) (sound : first.Sound)
    (strict : ∀ mode, passage.course.midway.roads.seeps mode = false)
    (present : passage.world.roads.queue? link = some queue) (fifo : queue.passing = false) :
    ∃ queue', passage.interval.next.roads.queue? link = some queue' ∧
      queue.Advances link passage.course.happenings queue' := by
  obtain ⟨old, found, lineup⟩ :=
    Roads.lineup_of_lineups (World.refilled_lineups passage.follows.changed).symm present
  refine passage.reaches_final.accumulates (fun done traffic => ∃ queue',
    traffic.roads.queue? link = some queue' ∧ queue.Advances link done queue') ?_
    ⟨old, found,
      .start fifo (congrArg Lineup.vehicles lineup).symm (congrArg Lineup.passing lineup).symm⟩
  rintro done happening traffic traffic' reaches next ⟨between, here, earlier⟩ step
  obtain ⟨pending, placed⟩ := reaches.placed regular
  obtain ⟨queue', there, turns⟩ := step.turns placed.labelled here
  have single := turns.advances earlier.fifo fun vehicle member leaves own =>
    reaches.head?_of_leaves regular sound strict next leaves here member own
  exact ⟨queue', there, earlier.append single⟩

end Passage

theorem World.Passes.advances {start world : World α} {passages : List (Passage α)}
    {first : Network α} {tickSecs : Nat} {link : LinkId} {queue : LinkQueue α}
    (passes : start.Passes passages world) (regular : start.Regular first tickSecs)
    (sound : first.Sound) (strict : ∀ mode, start.roads.seeps mode = false)
    (present : start.roads.queue? link = some queue) (fifo : queue.passing = false) :
    ∃ queue', world.roads.queue? link = some queue' ∧
      queue.Advances link (happenings passages) queue' := by
  induction passes with
  | start => exact ⟨queue, present, .start fifo rfl rfl⟩
  | @step passages passage before ih =>
      obtain ⟨between, there, earlier⟩ := ih
      -- That nobody seeps holds of the start only, and the rules of the roads never change.
      have calm (mode : ModeId) : passage.course.midway.roads.seeps mode = false := by
        rw [Roads.seeps_eq_of_rules
          (passage.rules_midway.trans ((Enduring.rules start.roads).run rfl before.run)), strict]
      obtain ⟨queue', last, single⟩ :=
        Passage.advances (regular.run before.run) sound calm there earlier.fifo
      refine ⟨queue', last, ?_⟩
      rw [happenings, List.flatMap_append, List.flatMap_singleton]
      exact earlier.append single

theorem Happening.leaves?_of_mem_events {now time : Tick} {happening : Happening} {id : AgentId}
    {link : LinkId} (member : ⟨time, .linkLeft, id, link⟩ ∈ happening.events now) :
    happening.leaves? = some link ∧ happening.agent = id := by
  cases happening <;> simp [events] at member <;> simp [leaves?, agent, member]

/-- Nobody leaves a link before another that stands ahead of it, unless its mode may seep and
in the same interval one that stands ahead of it is turned away by a full downstream link.
Where nobody passes and nobody seeps, vehicles leave in the order in which they have come. -/
theorem Sim.Run.leaves_in_order {σ : Type} {setup : SimSetup α σ} {start sim : Sim α σ}
    {history : List (Interval α)} {roads : NetworkDraft α} {draft : PopulationDraft}
    {table : ModeTable α} (connected : roads.build = .ok setup.network)
    (drafted : draft.Drafted) (populated : draft.build table = .ok setup.population)
    (built : setup.build = .ok start) (run : Sim.Run start history sim) :
    (∀ passage : Passage α, passage.world = sim.world →
      ∀ done happening traffic, passage.Reaches done traffic →
      done ++ [happening] <+: passage.course.happenings →
      ∀ link queue, traffic.roads.queue? link = some queue →
      ∀ vehicle ∈ queue.vehicles, ∀ other ∈ queue.vehicles, queue.Ahead other vehicle →
      ⟨passage.tick, .linkLeft, vehicle.agent, link⟩ ∈ happening.events passage.tick →
        setup.dynamics.LetsSeep setup.table vehicle.mode ∧
          ∃ service ∈ passage.services, service.link = link ∧
            ∃ refused ∈ service.refused, refused ∈ queue.vehicles ∧
              queue.Ahead refused vehicle) ∧
    ((∀ mode, ¬setup.dynamics.LetsSeep setup.table mode) →
      ∀ link queue, sim.world.roads.queue? link = some queue → queue.passing = false →
        entries link (heard history) =
          exits link (heard history) ++ queue.vehicles.map (·.agent)) := by
  have fresh := drafted.fresh_of_build populated
  have sound := Network.sound_of_build connected
  have regular := World.Regular.of_build built fresh
  constructor
  · rintro passage reached done happening traffic reaches next link queue present vehicle member
      other member' ahead left
    obtain ⟨leaves, own⟩ := Happening.leaves?_of_mem_events left
    have later : passage.world.Regular setup.network setup.config.tickSecs := by
      rw [reached]
      exact regular.run run.world
    obtain ⟨seeps, turned⟩ := reaches.seeps_of_leaves later sound next leaves present member
      own.symm member' ahead
    rw [Roads.seeps_eq_of_rules passage.rules_midway, reached] at seeps
    exact ⟨(run.seeps_iff built _).mp seeps, turned⟩
  · intro strict link queue present fifo
    obtain ⟨passages, passes, rfl⟩ := World.Passes.of_run run.world
    obtain ⟨journeys, recorded, settles⟩ :=
      passes.exists_settles (.of_build built fresh) (Recorded.of_build built fresh)
    have nobody (mode : ModeId) : start.world.roads.seeps mode = false :=
      Bool.eq_false_iff.mpr fun seeps => strict mode ((Sim.Run.start.seeps_iff built mode).mp seeps)
    obtain ⟨first, found, site⟩ := Roads.site_eq_of_sites
      ((Enduring.sites start.world.roads).run rfl run.world) present
    have empty : first.vehicles = [] :=
      (Roads.empty_of_ofNetwork (SimSetup.build_eq_ok built).opened found).1
    have passing : queue.passing = first.passing := congrArg Site.passing site
    obtain ⟨queue', there, advances⟩ :=
      passes.advances regular sound nobody found (passing.symm.trans fifo)
    cases present.symm.trans there
    rw [World.Passes.entries_eq, World.Passes.exits_eq passages (settles.discerns recorded.own),
      ← advances.agents, empty, List.map_nil, List.nil_append]

/-- The third of three vehicles waits on a link that the other two have left. -/
theorem Bottleneck.leaves_in_order_of_three :
    ∃ network population start sim history queue, draft.build = .ok network ∧
      (crowd [(narrow, 0, [entry, exit]), (wide, 0, [entry, exit]),
        (narrow, 0, [entry, exit])]).build table = .ok population ∧
      { setup network population with keepEvents := true, dynamics := {} }.build = .ok start ∧
      Sim.Run start history sim ∧ sim.world.roads.queue? entry = some queue ∧
      queue.passing = false ∧ entries entry (heard history) = [⟨0⟩, ⟨1⟩, ⟨2⟩] ∧
      exits entry (heard history) = [⟨0⟩, ⟨1⟩] ∧ queue.vehicles.map (·.agent) = [⟨2⟩] := by
  have ran : drive? draft [(narrow, 0, [entry, exit]), (wide, 0, [entry, exit]),
      (narrow, 0, [entry, exit])]
      (fun network population => { setup network population with
        keepEvents := true, dynamics := {} }) 2
      (fun _ _ _ sim =>
        sim.log.bind fun (log : EventLog) =>
        (sim.world.roads.queue? entry).map fun (queue : LinkQueue Rat) =>
          (queue.passing, entries entry log.events.toList, exits entry log.events.toList)) =
      some (false, [⟨0⟩, ⟨1⟩, ⟨2⟩], [⟨0⟩, ⟨1⟩]) := by decide +kernel
  obtain ⟨network, population, start, sim, history, connected, populated, built, -, run, seen⟩ :=
    exists_of_drive? ran
  simp only [Option.bind_eq_some_iff, Option.map_eq_some_iff, Prod.mk.injEq] at seen
  obtain ⟨log, kept, queue, present, fifo, came, left⟩ := seen
  have told := run.log_eq_heard (SimSetup.build_eq_ok built) kept
  rw [told] at came left
  have strict (mode : ModeId) : ¬({} : Dynamics Rat).LetsSeep table mode := by
    rintro ⟨seepage, type, given, -⟩
    cases given
  have law := (Sim.Run.leaves_in_order connected (crowd_drafted _) populated built run).2 strict
    entry queue present fifo
  rw [came, left] at law
  exact ⟨network, population, start, sim, _, queue, connected, populated, built, run, present,
    fifo, came, left, List.append_cancel_left law.symm⟩

end MixedTraffic

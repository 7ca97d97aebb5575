import MixedTraffic.Proofs.Flow.Overtakes
import MixedTraffic.Proofs.Lists
import MixedTraffic.Proofs.Run.Succession
import MixedTraffic.Proofs.Run.Timetable

namespace MixedTraffic

/-! The vehicles on a link in the order in which they have come, which is how a counter of
overtakes knows them. -/

variable {α : Type}

namespace LinkQueue

variable {queue queue' : LinkQueue α} {now later : Tick} {arrivals : List (Vehicle α)}
  {link : LinkId} {happening : Happening} {traffic : Traffic α} {context : RouteContext}

structure Arrivals (queue : LinkQueue α) (now : Tick) (arrivals : List (Vehicle α)) : Prop where
  perm : arrivals.Perm queue.vehicles
  sorted : arrivals.Pairwise fun vehicle other =>
    vehicle.seq < other.seq ∧ vehicle.entered ≤ other.entered
  before : ∀ vehicle ∈ arrivals, vehicle.seq < queue.nextSeq ∧ vehicle.entered ≤ now

theorem Arrivals.of_empty (empty : queue.vehicles = []) : queue.Arrivals now [] where
  perm := empty ▸ .nil
  sorted := .nil
  before := List.forall_mem_nil _

theorem Arrivals.of_lineup (order : queue.Arrivals now arrivals)
    (same : queue'.lineup = queue.lineup) (passed : now ≤ later) :
    queue'.Arrivals later arrivals where
  perm := order.perm.trans (.of_eq (congrArg Lineup.vehicles same).symm)
  sorted := order.sorted
  before vehicle member := by
    obtain ⟨numbered, entered⟩ := order.before vehicle member
    exact ⟨numbered.trans_eq (congrArg Lineup.nextSeq same).symm, entered.trans passed⟩

def staying (link : LinkId) (happening : Happening) (vehicles : List (Vehicle α)) :
    List (Vehicle α) :=
  vehicles.filter fun vehicle => happening.leaves? = some link → happening.agent ≠ vehicle.agent

variable [Quantity α]

theorem Arrivals.loses (order : queue.Arrivals now arrivals)
    (distinct : (queue.vehicles.map (·.agent)).Nodup)
    (loses : queue.Loses link happening queue') :
    queue'.Arrivals now (staying link happening arrivals) where
  perm := by
    have whole : arrivals.Nodup := order.perm.nodup_iff.mpr distinct.of_map
    have rest : queue'.vehicles.Nodup := by
      cases loses with
      | same => exact distinct.of_map
      | left => exact distinct.of_map.sublist List.eraseP_sublist
    refine (List.perm_ext_iff_of_nodup (whole.filter _) rest).mpr fun vehicle => ?_
    rw [List.mem_filter, decide_eq_true_iff, loses.mem_iff distinct, order.perm.mem_iff,
      Happening.Remains, List.forall_mem_singleton]
  sorted := order.sorted.filter _
  before vehicle member := by
    rw [loses.frame.2]
    exact order.before vehicle (List.mem_of_mem_filter member)

theorem Arrivals.admits (order : queue.Arrivals now arrivals)
    (admits : queue.Admits link now happening traffic queue') :
    ∃ newcomers, newcomers.map (·.agent) = Happening.coming link [happening] ∧
      queue'.Arrivals now (arrivals ++ newcomers) := by
  cases admits with
  | same apart =>
      exact ⟨[], by simp [Happening.coming, apart], by rwa [List.append_nil]⟩
  | @joined rider seeping room enters own taken comes =>
      refine ⟨[queue.stamped rider now seeping], by simp [Happening.coming, enters, own], ?_, ?_,
        fun vehicle member => ?_⟩
      · refine List.perm_append_singleton .. |>.trans ?_
        exact (order.perm.cons _).trans (holding_perm queue _).symm
      · refine List.pairwise_append.mpr ⟨order.sorted, List.pairwise_singleton .., ?_⟩
        intro vehicle member newcomer only
        rw [List.mem_singleton.mp only]
        exact order.before vehicle member
      · obtain old | new := List.mem_append.mp member
        · exact (order.before vehicle old).imp_left Nat.lt_succ_of_lt
        · rw [List.mem_singleton.mp new]
          exact ⟨Nat.lt_succ_self _, le_rfl⟩

theorem Arrivals.turns (order : queue.Arrivals context.now arrivals)
    (distinct : (queue.vehicles.map (·.agent)).Nodup)
    (turns : traffic.Turns context happening link queue queue') :
    ∃ newcomers, newcomers.map (·.agent) = Happening.coming link [happening] ∧
      queue'.Arrivals context.now (staying link happening arrivals ++ newcomers) := by
  obtain ⟨loses, admits, notes⟩ := turns
  obtain ⟨newcomers, coming, joined⟩ := (order.loses distinct loses).admits admits
  obtain ⟨-, nextSeq, vehicles⟩ := notes.frame
  refine ⟨newcomers, coming, joined.perm.trans (.of_eq vehicles.symm), joined.sorted, ?_⟩
  rw [nextSeq]
  exact joined.before

end LinkQueue

section Line

variable {mode : ModeId} {line : List (AgentId × ModeId)} {link : LinkId}

theorem Event.map_line_of_gone {event : Event}
    (gone : event.kind = .linkLeft ∨ event.kind = .stuck) (distinct : (line.map (·.1)).Nodup) :
    (event.line mode line).map (·.1) = (line.map (·.1)).filter fun id => event.agent ≠ id := by
  have erased : (line.eraseP (·.1 == event.agent)).map (·.1) =
      (line.map (·.1)).erase event.agent := by
    rw [List.erase_eq_eraseP', List.eraseP_map]
    rfl
  unfold Event.line
  obtain left | stuck := gone
  · rw [left]
    dsimp only
    rw [erased, distinct.erase_eq_filter]
    refine List.filter_congr fun id _ => ?_
    rw [Bool.eq_iff_iff]
    simp [@eq_comm _ event.agent]
  · rw [stuck, List.filter_map]
    refine congrArg _ (List.filter_congr fun entry _ => ?_)
    rw [Bool.eq_iff_iff]
    simp [@eq_comm _ event.agent]

theorem Happening.line_of_events {happening : Happening} (now : Tick)
    (distinct : (line.map (·.1)).Nodup)
    (absent : ∀ id, happening = .gaveUp id link → id ∉ line.map (·.1)) :
    ((happening.events now).foldl (Event.lineOn link mode) line).map (·.1) =
      ((line.map (·.1)).filter fun id =>
        happening.leaves? = some link → happening.agent ≠ id) ++ coming link [happening] := by
  have gone (kind : EventKind) (id : AgentId) (leaves : kind = .linkLeft ∨ kind = .stuck) :
      ((⟨now, kind, id, link⟩ : Event).line mode line).map (·.1) =
        (line.map (·.1)).filter fun other => id ≠ other := Event.map_line_of_gone leaves distinct
  have came (id : AgentId) (line : List (AgentId × ModeId)) :
      ((⟨now, .linkEntered, id, link⟩ : Event).line mode line).map (·.1) =
        line.map (·.1) ++ [id] := List.map_append
  have ended (id : AgentId) (line : List (AgentId × ModeId)) :
      (⟨now, .arrived, id, link⟩ : Event).line mode line = line := rfl
  have begins (id : AgentId) (line : List (AgentId × ModeId)) :
      (⟨now, .departed, id, link⟩ : Event).line mode line = line := rfl
  cases happening with
  | departed id first =>
      by_cases here : first = link <;>
        simp [events, Event.lineOn, leaves?, enters?, coming, agent, here, came, begins]
  | transferred id source target =>
      by_cases leaves : source = link <;> by_cases here : target = link <;>
        simp [events, Event.lineOn, leaves?, enters?, coming, agent, leaves, here, came, gone]
  | arrived id last =>
      by_cases here : last = link <;>
        simp [events, Event.lineOn, leaves?, enters?, coming, agent, here, ended, gone]
  | removed id last =>
      by_cases here : last = link <;>
        simp [events, Event.lineOn, leaves?, enters?, coming, agent, here, gone]
  | gaveUp id first =>
      by_cases here : first = link
      · have others : ((line.map (·.1)).filter fun other => id ≠ other) = line.map (·.1) :=
          List.filter_eq_self.mpr fun other listed =>
            decide_eq_true fun same => absent id (here ▸ rfl) (same ▸ listed)
        simpa [events, Event.lineOn, leaves?, enters?, coming, here, gone] using others
      · simp [events, Event.lineOn, leaves?, enters?, coming, here]
  | skipped | turnedAway | heldUp => simp [events, leaves?, enters?, coming]

end Line

/-- That some items are in the order of their last occurrences in a list. -/
def Ranked {β : Type} [DecidableEq β] (items occurrences : List β) : Prop :=
  items = occurrences.dedup.filter (· ∈ items)

section Ranked

variable {β : Type} [DecidableEq β] {items occurrences : List β}

theorem Ranked.filter (ranked : Ranked items occurrences) (keep : β → Bool) :
    Ranked (items.filter keep) occurrences := by
  unfold Ranked at ranked ⊢
  conv_lhs => rw [ranked]
  rw [List.filter_filter]
  refine List.filter_congr fun item _ => ?_
  rw [Bool.eq_iff_iff]
  simp [and_comm]

theorem Ranked.concat (ranked : Ranked items occurrences) {item : β} (absent : item ∉ items) :
    Ranked (items ++ [item]) (occurrences ++ [item]) := by
  have rest : (occurrences.dedup.filter (· ≠ item)).filter (· ∈ items ++ [item]) = items := by
    unfold Ranked at ranked
    conv_rhs => rw [ranked]
    rw [List.filter_filter]
    refine List.filter_congr fun other _ => ?_
    rw [Bool.eq_iff_iff]
    grind
  unfold Ranked
  rw [dedup_concat, List.filter_append, rest]
  simp

end Ranked

namespace Traffic

variable [Quantity α] {table : ModeTable α} {context : RouteContext}
  {traffic traffic' : Traffic α} {happening : Happening} {pending : List AgentId} {event : Event}

theorem Step.isSome_of_mem_events (step : Step table context traffic happening traffic')
    (member : event ∈ happening.events context.now) :
    (traffic.roads.queue? event.link).isSome := by
  cases step with
  | departed _ _ _ _ present | arrived present =>
      obtain rfl | member := List.mem_cons.mp member
      · exact Option.isSome_of_mem present
      · rw [List.mem_singleton.mp member]
        exact Option.isSome_of_mem present
  | gaveUp _ _ _ _ present | removed present =>
      rw [List.mem_singleton.mp member]
      exact Option.isSome_of_mem present
  | transferred present _ reached =>
      obtain rfl | member := List.mem_cons.mp member
      · exact Option.isSome_of_mem present
      · rw [List.mem_singleton.mp member]
        rw [Roads.queue?_setQueue present] at reached
        split at reached
        next same => exact same ▸ Option.isSome_of_mem present
        next => exact Option.isSome_of_mem reached
  | skipped | turnedAway | heldUp => cases member

theorem Step.notMem_riders {id : AgentId} {link : LinkId} (placed : traffic.Placed pending)
    (step : Step table context traffic (.gaveUp id link) traffic') :
    id ∉ traffic.roads.riders := by
  cases step with
  | gaveUp found _ _ waits =>
      obtain ⟨place, shows⟩ := placed.shown found
      exact List.count_eq_zero.mp (shows.pending_of_wait waits).2.2.2

end Traffic

theorem Happening.agent_of_mem_events {now : Tick} {happening : Happening} {event : Event}
    (member : event ∈ happening.events now) : event.agent = happening.agent :=
  of_decide_eq_true
    (List.filter_eq_self.mp (Recorded.filter_events_self happening now) event member)

theorem entries_append (link : LinkId) (first second : List Event) :
    entries link (first ++ second) = entries link first ++ entries link second := by
  rw [entries, List.filter_append, List.map_append, entries, entries]

theorem Ranked.happening {items : List AgentId} {link : LinkId} {heard : List Event}
    {happening : Happening} (now : Tick) (ranked : Ranked items (entries link heard))
    (keep : AgentId → Bool)
    (once : (items.filter keep ++ Happening.coming link [happening]).Nodup) :
    Ranked (items.filter keep ++ Happening.coming link [happening])
      (entries link (heard ++ happening.events now)) := by
  rw [entries_append, ← List.flatMap_singleton (Happening.events now),
    Happening.entered_of_events]
  by_cases enters : happening.enters? = some link
  · have alone : Happening.coming link [happening] = [happening.agent] := by
      simp [Happening.coming, enters]
    rw [alone] at once ⊢
    apply (ranked.filter keep).concat
    intro again
    exact (List.nodup_append.mp once).2.2 _ again _ (List.mem_singleton_self _) rfl
  · have nobody : Happening.coming link [happening] = [] := by
      simp [Happening.coming, enters]
    rw [nobody, List.append_nil, List.append_nil]
    exact ranked.filter keep

namespace OvertakeCounter

variable {counter : OvertakeCounter α} {traffic traffic' : Traffic α} {heard : List Event}
  {now : Tick}

/-- That a counter has the vehicles on each link in the order in which they have come. -/
structure Mirrors (counter : OvertakeCounter α) (traffic : Traffic α) (now : Tick)
    (heard : List Event) : Prop where
  ready : counter.Ready
  modes : counter.agentModes = traffic.population.modes
  lined : ∀ link queue, traffic.roads.queue? link = some queue → ∃ line arrivals,
    counter.onLink[link.index]? = some line ∧ queue.Arrivals now arrivals ∧
      line.map (·.1) = arrivals.map (·.agent) ∧ Ranked (line.map (·.1)) (entries link heard)

theorem Mirrors.of_lineups (mirrors : counter.Mirrors traffic now heard)
    (lineups : traffic'.roads.lineups = traffic.roads.lineups)
    (population : traffic'.population = traffic.population) {later : Tick} (passed : now ≤ later) :
    counter.Mirrors traffic' later heard where
  ready := mirrors.ready
  modes := population ▸ mirrors.modes
  lined link queue' present' := by
    obtain ⟨queue, present, same⟩ := Roads.lineup_of_lineups lineups present'
    obtain ⟨line, arrivals, here, order, rest⟩ := mirrors.lined link queue present
    exact ⟨line, arrivals, here, order.of_lineup same passed, rest⟩

variable [Quantity α] {table : ModeTable α} {context : RouteContext} {happening : Happening}
  {pending : List AgentId}

theorem Mirrors.exists_mode (mirrors : counter.Mirrors traffic now heard)
    (step : Traffic.Step table context traffic happening traffic') :
    ∃ mode, ∀ event ∈ happening.events context.now,
      counter.agentModes[event.agent.index]? = some mode := by
  obtain ⟨id, link, rfl⟩ | found := step.known
  · exact ⟨⟨0⟩, List.forall_mem_nil _⟩
  · obtain ⟨agent, found⟩ := Option.isSome_iff_exists.mp found
    refine ⟨agent.mode, fun event member => ?_⟩
    rw [Happening.agent_of_mem_events member, mirrors.modes, Population.modes, Array.getElem?_map]
    exact congrArg (Option.map Agent.mode) found

theorem Mirrors.step (mirrors : counter.Mirrors traffic context.now heard)
    (placed : traffic.Placed pending)
    (step : Traffic.Step table context traffic happening traffic') :
    ((happening.events context.now).foldl (fun counter event => counter.hear event)
      counter).Mirrors traffic' context.now (heard ++ happening.events context.now) := by
  obtain ⟨mode, known⟩ := mirrors.exists_mode step
  obtain ⟨ready, agentModes, onLink⟩ := mirrors.ready.foldl_hear known fun event member => by
    obtain ⟨queue, present⟩ := Option.isSome_iff_exists.mp (step.isSome_of_mem_events member)
    obtain ⟨line, -, here, -⟩ := mirrors.lined _ queue present
    exact ⟨line, here⟩
  refine ⟨ready, agentModes.trans (mirrors.modes.trans (Population.modes_eq step.unbegun).symm),
    fun link queue' present' => ?_⟩
  obtain ⟨queue, present, -⟩ := Roads.site_eq_of_sites step.sites present'
  obtain ⟨line, arrivals, here, order, same, ranked⟩ := mirrors.lined link queue present
  obtain ⟨again, present'', turns⟩ := step.turns placed.labelled present
  cases present'.symm.trans present''
  have distinct := placed.nodup_agents present
  obtain ⟨newcomers, coming, order'⟩ := order.turns distinct turns
  have listed : (line.map (·.1)).Nodup :=
    same ▸ (order.perm.map (·.agent)).nodup_iff.mpr distinct
  have absent (id : AgentId) (refused : happening = .gaveUp id link) : id ∉ line.map (·.1) := by
    subst refused
    rw [same, (order.perm.map (·.agent)).mem_iff]
    intro aboard
    obtain ⟨vehicle, member, own⟩ := List.mem_map.mp aboard
    exact Traffic.Step.notMem_riders placed step (List.mem_map.mpr
      ⟨(link, vehicle), (Roads.mem_fleet placed.labelled).mpr ⟨queue, present, member⟩, own⟩)
  have next := @Happening.line_of_events mode line link happening context.now listed absent
  have agents : (((happening.events context.now).foldl (Event.lineOn link mode) line).map (·.1)) =
      (LinkQueue.staying link happening arrivals ++ newcomers).map (·.agent) := by
    rw [next, same, List.map_append, coming, LinkQueue.staying, List.filter_map]
    rfl
  have once := (order'.perm.map (·.agent)).nodup_iff.mpr
    ((placed.step step).nodup_agents present')
  refine ⟨_, _, onLink link line here, order', agents, ?_⟩
  rw [← agents, next] at once
  rw [next]
  exact ranked.happening context.now _ once

section Passage

variable {passage : Passage α} {first : Network α} {tickSecs : Nat} {done : List Happening}

/-- A counter that hears of all that has happened in a passage has the vehicles as they stand
then. -/
theorem Mirrors.reaches (regular : passage.world.Regular first tickSecs)
    (mirrors : counter.Mirrors
      { roads := passage.world.roads, population := passage.world.population } passage.tick heard)
    (reaches : passage.Reaches done traffic) :
    ((done.flatMap (·.events passage.tick)).foldl (fun counter event => counter.hear event)
      counter).Mirrors traffic passage.tick (heard ++ done.flatMap (·.events passage.tick)) := by
  have refilled : counter.Mirrors passage.course.changed.refilled passage.tick heard :=
    mirrors.of_lineups (World.refilled_lineups passage.follows.changed)
      passage.follows.revises.population le_rfl
  refine reaches.accumulates (fun done traffic =>
    ((done.flatMap (·.events passage.tick)).foldl (fun counter event => counter.hear event)
      counter).Mirrors traffic passage.tick (heard ++ done.flatMap (·.events passage.tick))) ?_
    (by simpa using refilled)
  intro done happening before after reached next earlier step
  obtain ⟨pending, placed⟩ := reached.placed regular
  rw [← passage.clock] at earlier ⊢
  rw [List.flatMap_append, List.flatMap_singleton, List.foldl_append, ← List.append_assoc]
  exact earlier.step placed step

end Passage

/-- A counter that hears of a whole run has the vehicles as they stand after it. -/
theorem Mirrors.run {start world : World α} {passages : List (Passage α)} {first : Network α}
    {tickSecs : Nat} (passes : start.Passes passages world) (regular : start.Regular first tickSecs)
    (mirrors : counter.Mirrors { roads := start.roads, population := start.population }
      start.clock.now []) :
    ((MixedTraffic.heard (passages.map (·.interval))).foldl
      (fun counter event => counter.hear event) counter).Mirrors
        { roads := world.roads, population := world.population } world.clock.now
        (MixedTraffic.heard (passages.map (·.interval))) := by
  induction passes with
  | start => exact mirrors
  | @step passages passage before ih =>
      have after := ih.reaches (regular.run before.run) passage.reaches_final
      have passed : passage.tick ≤ passage.interval.next.clock.now := by
        rw [passage.clock_next]
        exact Nat.le_succ _
      rw [List.map_append, List.map_singleton, heard_append, heard_singleton, passage.events_eq,
        List.foldl_append]
      refine after.of_lineups ?_ ?_ passed
      · rfl
      · rfl

theorem Mirrors.of_build {σ : Type} {setup : SimSetup α σ} {start : Sim α σ} {count : Nat}
    {measured : Option α} (built : setup.build = .ok start)
    (listed : ∀ mode ∈ setup.population.modes, mode.index < count) :
    (new setup.network count setup.population.modes measured).Mirrors
      { roads := start.world.roads, population := start.world.population } start.world.clock.now
        [] where
  ready := by
    refine ⟨Array.size_replicate, listed, fun line listed => ?_, ?_⟩
    · obtain ⟨_, -, rfl⟩ := Array.mem_map.mp listed
      exact List.forall_mem_nil _
    · exact Array.size_map.trans Array.size_map.symm
  modes := by
    obtain ⟨roads, -, world⟩ := (SimSetup.build_eq_ok built).world
    rw [world]
    rfl
  lined link queue present := by
    have opened := (SimSetup.build_eq_ok built).opened
    have known := Roads.queue?_of_ofNetwork opened link
    rw [present, eq_comm, Option.map_eq_some_iff] at known
    obtain ⟨attributes, known, -⟩ := known
    refine ⟨[], [], ?_, .of_empty (Roads.empty_of_ofNetwork opened present).1, rfl, rfl⟩
    rw [new, Array.getElem?_map]
    exact congrArg (Option.map _) known

end OvertakeCounter

end MixedTraffic

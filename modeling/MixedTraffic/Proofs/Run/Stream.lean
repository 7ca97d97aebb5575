import MixedTraffic.Proofs.Run.Itinerary

namespace MixedTraffic

/-! The stream of events that a run sends out, and what can be read off it. -/

/-- A stream in which the two events of one movement follow each other, in one interval. -/
inductive InPairs : List Event → Prop where
  | nil : InPairs []
  | departed {time : Tick} {agent : AgentId} {link : LinkId} {rest : List Event}
      (others : InPairs rest) :
      InPairs (⟨time, .departed, agent, link⟩ :: ⟨time, .linkEntered, agent, link⟩ :: rest)
  | transferred {time : Tick} {agent : AgentId} {source target : LinkId} {rest : List Event}
      (others : InPairs rest) :
      InPairs (⟨time, .linkLeft, agent, source⟩ :: ⟨time, .linkEntered, agent, target⟩ :: rest)
  | arrived {time : Tick} {agent : AgentId} {link : LinkId} {rest : List Event}
      (others : InPairs rest) :
      InPairs (⟨time, .linkLeft, agent, link⟩ :: ⟨time, .arrived, agent, link⟩ :: rest)
  | stuck {time : Tick} {agent : AgentId} {link : LinkId} {rest : List Event}
      (others : InPairs rest) :
      InPairs (⟨time, .stuck, agent, link⟩ :: rest)

namespace InPairs

theorem append {first second : List Event} (before : InPairs first)
    (after : InPairs second) : InPairs (first ++ second) := by
  induction before with
  | nil => exact after
  | departed _ ih => exact .departed ih
  | transferred _ ih => exact .transferred ih
  | arrived _ ih => exact .arrived ih
  | stuck _ ih => exact .stuck ih

theorem of_happenings (now : Tick) (happenings : List Happening) :
    InPairs (happenings.flatMap (·.events now)) := by
  induction happenings with
  | nil => exact .nil
  | cons happening rest ih =>
      rw [List.flatMap_cons]
      refine append ?_ ih
      cases happening with
      | departed => exact .departed .nil
      | transferred => exact .transferred .nil
      | arrived => exact .arrived .nil
      | gaveUp | removed => exact .stuck .nil
      | skipped | turnedAway | heldUp => exact .nil

end InPairs

theorem Happening.time_of_mem_events {now : Tick} {happening : Happening} {event : Event}
    (member : event ∈ happening.events now) : event.time = now := by
  cases happening <;> simp only [events, List.mem_cons, List.not_mem_nil, or_false] at member
  case departed | transferred | arrived =>
    rcases member with rfl | rfl <;> rfl
  case gaveUp | removed =>
    rw [member]

namespace Journey

/-- Two events of one kind are in order only if time has passed between them. -/
def Ascends (event later : Event) : Prop := event.kind = later.kind → event.time < later.time

variable {id : AgentId} {first : Leg} {later : List Leg} {ending : Option Ending}

theorem ascends_passing
    (stays : (first :: later).IsChain fun leg next => leg.entered < next.entered)
    (ends : ∀ last ∈ ending, (final first later).entered < last.time) :
    (passing id first later ++ closing id (final first later) ending).Pairwise Ascends ∧
      ∀ event ∈ passing id first later ++ closing id (final first later) ending,
        first.entered < event.time ∧ event.kind ≠ .departed := by
  induction later generalizing first with
  | nil =>
      rw [passing, List.nil_append]
      cases ending with
      | none => exact ⟨.nil, by simp [closing]⟩
      | some last =>
          cases last with
          | arrived time =>
              have after : first.entered < time := ends (.arrived time) rfl
              simp [closing, Ascends, final, after]
          | removed time =>
              have after : first.entered < time := ends (.removed time) rfl
              simp [closing, final, after]
  | cons leg later ih =>
      obtain ⟨before, others⟩ := List.isChain_cons_cons.mp stays
      have last : final first (leg :: later) = final leg later := by
        cases later <;> rfl
      rw [last] at ends ⊢
      obtain ⟨ascends, later⟩ := ih others ends
      simp only [passing, List.cons_append, List.pairwise_cons, List.forall_mem_cons]
      refine ⟨⟨⟨?_, ?_⟩, ?_, ascends⟩, ⟨before, by simp⟩, ⟨before, by simp⟩, ?_⟩
      · intro same
        cases same
      · intro event member _
        exact (later event member).1
      · intro event member _
        exact (later event member).1
      · intro event member
        exact ⟨before.trans (later event member).1, (later event member).2⟩

theorem Lawful.ascends {α : Type} {network : Network α} {takes : Leg → Nat → Prop}
    {driver : Driver} {journey : Journey} (lawful : journey.Lawful network takes id driver)
    (positive : ∀ leg ticks, takes leg ticks → 0 < ticks) :
    (journey.events id).Pairwise Ascends := by
  cases journey with
  | unheard => exact .nil
  | refused link time => exact List.pairwise_singleton ..
  | along first later ending =>
      have itinerary : Itinerary network takes id driver first later ending := lawful
      have stays : (first :: later).IsChain fun leg next => leg.entered < next.entered := by
        refine itinerary.stays.imp fun leg next stay => ?_
        obtain ⟨ticks, takes, enough⟩ := stay
        exact Nat.lt_of_lt_of_le (Nat.lt_add_of_pos_right (positive leg ticks takes)) enough
      have ends : ∀ last ∈ ending, (final first later).entered < last.time := by
        intro last same
        obtain ⟨ticks, takes, enough⟩ := itinerary.ends last same
        exact Nat.lt_of_lt_of_le (Nat.lt_add_of_pos_right (positive _ ticks takes)) enough
      obtain ⟨ascends, after⟩ := @ascends_passing id first later ending stays ends
      simp only [events, List.pairwise_cons, List.forall_mem_cons]
      refine ⟨⟨?_, ?_⟩, ?_, ascends⟩
      · intro same
        cases same
      · intro event member same
        exact absurd same.symm (after event member).2
      · intro event member _
        exact (after event member).1

/-- The links of a journey are the first of a route, all of it if the journey ends by
arriving. -/
def KeepsTo (route : List LinkId) : Journey → Prop
  | unheard => True
  | refused link _ => route.head? = some link
  | along first later ending =>
      (first :: later).map (·.link) <+: route ∧
        ∀ time, ending = some (.arrived time) → (first :: later).map (·.link) = route

theorem Lawful.keepsTo {α : Type} {network : Network α} {takes : Leg → Nat → Prop}
    {journey : Journey} {route : List LinkId}
    (lawful : journey.Lawful network takes id (.fixed route)) : journey.KeepsTo route := by
  cases journey with
  | unheard => trivial
  | refused link time =>
      change route.head? = some link
      rw [List.head?_eq_getElem?]
      exact lawful.of_fixed
  | along first later ending =>
      refine ⟨lawful.prefix_of_fixed, fun time arrived => ?_⟩
      subst arrived
      exact lawful.eq_of_fixed

end Journey

variable {α : Type} [Quantity α]

namespace World.Run

variable {start world : World α} {history : List (Interval α)}

theorem inPairs (run : World.Run start history world) : InPairs (heard history) := by
  induction run with
  | start => exact .nil
  | step _ simulated ih =>
      obtain ⟨course, follows, rfl⟩ := World.interval_eq_ok.mp simulated
      rw [heard_append, heard_singleton, follows.events]
      exact ih.append (.of_happenings ..)

theorem times (run : World.Run start history world) :
    (heard history).Pairwise (·.time ≤ ·.time) ∧
      ∀ event ∈ heard history, event.time < world.clock.now := by
  induction run with
  | start => exact ⟨.nil, by simp [heard]⟩
  | @step _ world _ _ _ simulated ih =>
      obtain ⟨ordered, past⟩ := ih
      obtain ⟨course, follows, rfl⟩ := World.interval_eq_ok.mp simulated
      have clock := follows.revises.clock
      have present : ∀ event ∈ course.interval.events.toList, event.time = world.clock.now := by
        intro event member
        rw [follows.events, clock] at member
        obtain ⟨happening, -, emitted⟩ := List.mem_flatMap.mp member
        exact Happening.time_of_mem_events emitted
      have now : course.interval.next.clock.now = world.clock.now + 1 :=
        congrArg (fun clock : Clock => clock.now + 1) clock
      rw [heard_append, heard_singleton, now]
      constructor
      · refine List.pairwise_append.mpr ⟨ordered, ?_, ?_⟩
        · refine List.pairwise_of_forall_mem_list fun event member other member' => ?_
          rw [present event member, present other member']
        · intro event member other member'
          rw [present other member']
          exact Nat.le_of_lt (past event member)
      · intro event member
        obtain earlier | last := List.mem_append.mp member
        · exact Nat.lt_succ_of_lt (past event earlier)
        · rw [present event last]
          exact Nat.lt_succ_self _

theorem unbegun (run : World.Run start history world) (id : AgentId) :
    (world.population.get? id).map Agent.unbegun =
      (start.population.get? id).map Agent.unbegun := by
  refine run.preserves (fun world => (world.population.get? id).map Agent.unbegun =
    (start.population.get? id).map Agent.unbegun) ?_ rfl
  intro world flowPermanent interval same simulated
  obtain ⟨course, follows, rfl⟩ := World.interval_eq_ok.mp simulated
  rw [← same, ← follows.revises.population]
  exact follows.steps.preserves
    (fun traffic => (traffic.population.get? id).map Agent.unbegun =
      (course.changed.population.get? id).map Agent.unbegun)
    (fun same step => (step.unbegun id).trans same) rfl

end World.Run

/-- What is heard of each agent is a journey: it never came onto its first link, or entered
and left link after link, until it arrived or was taken off the road. The links join in the
network, are those of a fixed route in turn, up to its last if the agent arrives, and each is
left only after the time that it takes at the speeds in force when it was entered. In the
whole stream, time never goes back and the two events of a movement follow each other. -/
theorem Sim.Run.heard_as_journeys {σ : Type} {setup : SimSetup α σ} {start sim : Sim α σ}
    {history : List (Interval α)} {roads : NetworkDraft α} {draft : PopulationDraft}
    {table : ModeTable α} (connected : roads.build = .ok setup.network)
    (drafted : draft.Drafted) (populated : draft.build table = .ok setup.population)
    (built : setup.build = .ok start) (run : Sim.Run start history sim) :
    (∃ journeys : AgentId → Journey,
      (∀ id, (heard history).filter (·.agent = id) = (journeys id).events id) ∧
      (∀ id, setup.population.get? id = none → journeys id = .unheard) ∧
      ∀ id agent, setup.population.get? id = some agent →
        (journeys id).Lawful setup.network
            (Leg.Takes setup.config.tickSecs setup.table history agent.mode) id agent.driver ∧
          ∀ route, agent.driver = .fixed route → (journeys id).KeepsTo route) ∧
    (heard history).Pairwise (·.time ≤ ·.time) ∧
    InPairs (heard history) ∧
    (∀ id kind, ((heard history).filter fun event =>
      event.agent = id ∧ event.kind = kind).Pairwise (·.time < ·.time)) ∧
    ∀ log, sim.log = some log → log.events.toList = heard history := by
  have fresh := drafted.fresh_of_build populated
  have starts := SimSetup.build_eq_ok built
  obtain ⟨opened, -, world⟩ := starts.world
  obtain ⟨journeys, chronicled⟩ :=
    (World.Chronicled.of_build built fresh).run (Network.sound_of_build connected) run.world
  have recorded := chronicled.traffic.recorded
  have population : start.world.population = setup.population := by rw [world]
  have lawful {id : AgentId} {agent : Agent} (found : setup.population.get? id = some agent) :
      (journeys id).Lawful setup.network
        (Leg.Takes setup.config.tickSecs setup.table history agent.mode) id agent.driver := by
    have same := run.world.unbegun id
    rw [population, found, Option.map_some, Option.map_eq_some_iff] at same
    obtain ⟨present, listed, equal⟩ := same
    have mode : present.unbegun.mode = agent.unbegun.mode := congrArg Agent.mode equal
    have driver : present.unbegun.driver = agent.unbegun.driver := congrArg Agent.driver equal
    change present.mode = agent.mode at mode
    change present.driver = agent.driver at driver
    rw [← mode, ← driver]
    exact chronicled.traffic.lawful listed
  have stranger {id : AgentId} (unknown : setup.population.get? id = none) :
      journeys id = .unheard := by
    apply recorded.stranger
    have same := run.world.unbegun id
    rw [population, unknown, Option.map_none, Option.map_eq_none_iff] at same
    exact same
  refine ⟨⟨journeys, recorded.own, fun id unknown => stranger unknown, fun id agent found => ?_⟩,
    run.world.times.1, run.world.inPairs, fun id kind => ?_,
    fun log => run.log_eq_heard starts⟩
  · refine ⟨lawful found, fun route fixed => ?_⟩
    have kept := lawful found
    rw [fixed] at kept
    exact kept.keepsTo
  · have ascends : ((journeys id).events id).Pairwise Journey.Ascends := by
      cases found : setup.population.get? id with
      | none =>
          rw [stranger found]
          exact .nil
      | some agent => exact (lawful found).ascends fun _ _ takes => takes.pos
    rw [← recorded.own id] at ascends
    have ofKind := ascends.filter (·.kind = kind)
    rw [List.filter_filter] at ofKind
    have same : (fun event : Event => decide (event.kind = kind) && decide (event.agent = id)) =
        fun event => decide (event.agent = id ∧ event.kind = kind) := by
      funext event
      rw [Bool.decide_and, Bool.and_comm]
    rw [same] at ofKind
    refine ofKind.imp_of_mem fun {event later} member member' ascend => ?_
    simp only [List.mem_filter, decide_eq_true_eq] at member member'
    exact ascend (member.2.2.trans member'.2.2.symm)

/-- One agent drives through and arrives, the other has entered its first link. -/
theorem Bottleneck.heard_as_journeys_of_two :
    ∃ network population start sim history, draft.build = .ok network ∧
      (crowd [(narrow, 0, [entry, exit]), (wide, 2, [entry, exit])]).build table =
        .ok population ∧
      { setup network population with keepEvents := true }.build = .ok start ∧
      Sim.Run start history sim ∧
      heard history =
        [⟨0, .departed, ⟨0⟩, entry⟩, ⟨0, .linkEntered, ⟨0⟩, entry⟩,
          ⟨1, .linkLeft, ⟨0⟩, entry⟩, ⟨1, .linkEntered, ⟨0⟩, exit⟩,
          ⟨2, .departed, ⟨1⟩, entry⟩, ⟨2, .linkEntered, ⟨1⟩, entry⟩,
          ⟨2, .linkLeft, ⟨0⟩, exit⟩, ⟨2, .arrived, ⟨0⟩, exit⟩] ∧
      InPairs (heard history) ∧
      ∃ journey : Journey, journey.KeepsTo [entry, exit] ∧
        (heard history).filter (·.agent = ⟨0⟩) = journey.events ⟨0⟩ := by
  have ran : drive? draft [(narrow, 0, [entry, exit]), (wide, 2, [entry, exit])]
      (fun network population => { setup network population with keepEvents := true }) 3
      (fun _ _ _ sim => sim.log.map fun (log : EventLog) => log.events.toList) =
      some [⟨0, .departed, ⟨0⟩, entry⟩, ⟨0, .linkEntered, ⟨0⟩, entry⟩,
        ⟨1, .linkLeft, ⟨0⟩, entry⟩, ⟨1, .linkEntered, ⟨0⟩, exit⟩,
        ⟨2, .departed, ⟨1⟩, entry⟩, ⟨2, .linkEntered, ⟨1⟩, entry⟩,
        ⟨2, .linkLeft, ⟨0⟩, exit⟩, ⟨2, .arrived, ⟨0⟩, exit⟩] := by
    decide +kernel
  obtain ⟨network, population, start, sim, history, connected, populated, built, -, run, seen⟩ :=
    exists_of_drive? ran
  obtain ⟨log, kept, events⟩ := Option.map_eq_some_iff.mp seen
  obtain ⟨⟨journeys, own, -, journeyed⟩, -, pairs, -, logged⟩ :=
    Sim.Run.heard_as_journeys connected (crowd_drafted _) populated built run
  obtain ⟨agent, found, fixed⟩ : ∃ agent, population.get? ⟨0⟩ = some agent ∧
      agent.driver = .fixed [entry, exit] := by
    obtain ⟨-, rfl⟩ := PopulationDraft.build_eq_ok.mp populated
    exact ⟨_, rfl, rfl⟩
  refine ⟨network, population, start, sim, _, connected, populated, built, run, ?_, pairs,
    journeys ⟨0⟩, (journeyed _ agent found).2 _ fixed, own _⟩
  rw [← logged log kept]
  exact events

end MixedTraffic

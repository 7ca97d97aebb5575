import MixedTraffic.Proofs.Flow.Presence
import MixedTraffic.Proofs.Run.Audience
import MixedTraffic.Proofs.Run.Stream

namespace MixedTraffic

/-! What a flow tracker knows of a run, which is no more than the events, and what there is on
the roads. -/

/-- That nobody enters a link without having left the one before, of one agent that has been on
its link since some time, if on any. -/
def Alternating : Option Tick → List Event → Prop
  | _, [] => True
  | since?, event :: rest =>
      (event.kind = .linkEntered → since? = none) ∧ Alternating (event.presence since?) rest

theorem alternating_append {since? : Option Tick} {first second : List Event} :
    Alternating since? (first ++ second) ↔
      Alternating since? first ∧ Alternating (first.foldl Event.presence since?) second := by
  induction first generalizing since? with
  | nil => exact (and_iff_right trivial).symm
  | cons event rest ih => exact (and_congr_right' ih).trans and_assoc.symm

namespace Journey

variable (id : AgentId) (first : Leg) (later : List Leg) (ending : Option Ending)

/-- Since when the agent of a journey is on its present link. -/
def presence : Journey → Option Tick
  | along first later none => some (final first later).entered
  | _ => none

theorem foldl_passing :
    (passing id first later).foldl Event.presence (some first.entered) =
      some (final first later).entered := by
  induction later generalizing first with
  | nil => rfl
  | cons leg later ih => exact (ih leg).trans (by rw [final, final, List.getLastD_cons])

theorem alternating_passing :
    Alternating (some first.entered) (passing id first later) := by
  induction later generalizing first with
  | nil => trivial
  | cons leg later ih => exact ⟨fun entered => (by cases entered), fun _ => rfl, ih leg⟩

theorem alternating_closing (since? : Option Tick) :
    Alternating since? (closing id first ending) := by
  match ending with
  | none => trivial
  | some (.arrived _) =>
      exact ⟨fun entered => (by cases entered), fun entered => (by cases entered), trivial⟩
  | some (.removed _) => exact ⟨fun entered => (by cases entered), trivial⟩

theorem foldl_presence (journey : Journey) :
    (journey.events id).foldl Event.presence none = journey.presence := by
  match journey with
  | unheard => rfl
  | refused _ _ => rfl
  | along first later ending =>
      change (passing id first later ++ closing id (final first later) ending).foldl Event.presence
        (some first.entered) = _
      rw [List.foldl_append, foldl_passing]
      match ending with
      | none => rfl
      | some (.arrived _) => rfl
      | some (.removed _) => rfl

theorem alternating_events (journey : Journey) : Alternating none (journey.events id) := by
  match journey with
  | unheard => trivial
  | refused _ _ => exact ⟨fun entered => (by cases entered), trivial⟩
  | along first later ending =>
      refine ⟨fun entered => (by cases entered), fun _ => rfl, ?_⟩
      exact alternating_append.mpr
        ⟨alternating_passing id first later, alternating_closing id _ ending _⟩

end Journey

variable {α : Type}

namespace Recorded

variable {heard : List Event} {roads : Roads α} {population : Population}
  {journeys : AgentId → Journey}

theorem alternates (recorded : Recorded heard roads population journeys) : Alternates heard := by
  intro done event rest parts entered
  have alternating := (journeys event.agent).alternating_events event.agent
  rw [← recorded.own, parts, List.filter_append, List.filter_cons_of_pos (by simp)] at alternating
  exact (alternating_append.mp alternating).2.1 entered

theorem presence (recorded : Recorded heard roads population journeys) (id : AgentId) :
    (heard.filter (·.agent = id)).foldl Event.presence none = (journeys id).presence := by
  rw [recorded.own, Journey.foldl_presence]

theorem known (recorded : Recorded heard roads population journeys) {event : Event}
    (member : event ∈ heard) : event.agent.index < population.modes.size := by
  by_contra outside
  rw [Population.modes, Array.size_map] at outside
  have unheard : journeys event.agent = .unheard :=
    recorded.stranger (Array.getElem?_eq_none (not_lt.mp outside))
  have own : event ∈ heard.filter (·.agent = event.agent) :=
    List.mem_filter.mpr ⟨member, decide_eq_true rfl⟩
  rw [recorded.own, unheard] at own
  cases own

end Recorded

variable [Quantity α]

namespace World.Placed

variable {world : World α} (placed : world.Placed)
include placed

theorem exists_vehicle {id : AgentId} {agent : Agent} {link : LinkId} {step : Nat}
    (found : world.population.get? id = some agent)
    (moving : agent.trip.state = .moving link step) :
    ∃ vehicle, (link, vehicle) ∈ world.roads.fleet ∧ vehicle.agent = id := by
  obtain ⟨place, shows⟩ := placed.traffic.shown found
  cases place with
  | pending =>
      obtain ⟨⟨-, state | ⟨since, state⟩⟩, -⟩ := shows
      · cases state.symm.trans moving
      · cases state.symm.trans moving
  | enRoute =>
      obtain ⟨-, -, link, step, vehicle, trip, own, member⟩ := shows
      rw [trip] at moving
      cases moving
      exact ⟨vehicle, member, own⟩
  | finished => cases shows.1.1.symm.trans moving

theorem card_eq {vehicles : List (LinkId × Vehicle α)} (part : vehicles.Sublist world.roads.fleet)
    {indices : Finset Nat}
    (same : ∀ index, index ∈ indices ↔ index ∈ vehicles.map (·.2.agent.index)) :
    indices.card = vehicles.length := by
  have riders : (vehicles.map (·.2.agent)).Nodup :=
    (part.map _).nodup placed.traffic.nodup_riders
  have distinct : (vehicles.map (·.2.agent.index)).Nodup :=
    riders.of_map.map_on fun first among second also same =>
      List.inj_on_of_nodup_map riders among also (congrArg Key.mk same)
  have listed : indices = (vehicles.map (·.2.agent.index)).toFinset := by
    ext index
    rw [same, List.mem_toFinset]
  rw [listed, List.toFinset_card_of_nodup distinct, List.length_map]

end World.Placed

theorem World.onNetwork_eq_size {world : World α} {flowPermanent : Bool} {interval : Interval α}
    (simulated : world.interval flowPermanent = .ok interval) :
    interval.summary.onNetwork = interval.next.roads.size := by
  obtain ⟨course, -, rfl⟩ := World.interval_eq_ok.mp simulated
  rfl

namespace FlowTracker

variable {tracker : FlowTracker α} {world : World α}

/-- That a tracker shows who is on the roads. -/
structure Shows (tracker : FlowTracker α) (world : World α) : Prop where
  among : ∀ id, tracker.entry? id ≠ none ↔
    ∃ agent link step, world.population.get? id = some agent ∧
      agent.trip.state = .moving link step
  since : ∀ id agent link step, world.population.get? id = some agent →
    agent.trip.state = .moving link step →
      ∃ queue vehicle, world.roads.queue? link = some queue ∧ vehicle ∈ queue.vehicles ∧
        vehicle.agent = id ∧ tracker.entry? id = some vehicle.entered
  modes : ∀ mode track, (mode, track) ∈ tracker.modes →
    track.agents = world.roads.fleet.countP (·.2.mode = mode)
  total : tracker.total.agents = world.roads.size

section Placed

variable {modes : Array ModeId} {heard : List Event} {journeys : AgentId → Journey}
  {pending : List AgentId} (follows : tracker.Follows modes heard)
  (recorded : Recorded heard world.roads world.population journeys)
  (known : world.population.modes = modes)
include follows recorded known

/-- A tracker that has followed all events knows of each agent what its journey says. -/
theorem Follows.entry_eq_presence (id : AgentId) :
    tracker.entry? id = (journeys id).presence := by
  by_cases inside : id.index < modes.size
  · rw [follows.entries id inside, recorded.presence]
  · have outside : tracker.entries.size ≤ id.index := by
      rw [follows.ready.sized, follows.agentModes]
      exact not_lt.mp inside
    rw [← known, Population.modes, Array.size_map] at inside
    rw [entry_eq_join, Array.getElem?_eq_none outside,
      recorded.stranger (Array.getElem?_eq_none (not_lt.mp inside))]
    rfl

theorem Follows.exists_mem {id : AgentId} (among : tracker.entry? id ≠ none) :
    ∃ agent link step vehicle, world.population.get? id = some agent ∧
      agent.trip = ⟨.moving link step, none⟩ ∧ (link, vehicle) ∈ world.roads.fleet ∧
      vehicle.agent = id := by
  rw [follows.entry_eq_presence recorded known] at among
  cases found : world.population.get? id with
  | none =>
      rw [recorded.stranger found] at among
      exact absurd rfl among
  | some agent =>
      have fits := recorded.fits found
      match journey : journeys id with
      | .unheard | .refused _ _ | .along _ _ (some _) =>
          rw [journey] at among
          exact absurd rfl among
      | .along first later none =>
          rw [journey] at fits
          obtain ⟨trip, vehicle, own, -, member⟩ := fits
          exact ⟨agent, _, _, vehicle, rfl, trip, member, own⟩

theorem Follows.entry_of_mem (placed : world.Placed) {link : LinkId} {vehicle : Vehicle α}
    (member : (link, vehicle) ∈ world.roads.fleet) :
    tracker.entry? vehicle.agent = some vehicle.entered := by
  have rides : vehicle.agent ∈ world.roads.riders := List.mem_map_of_mem member
  obtain ⟨agent, found⟩ := Option.isSome_iff_exists.mp (placed.traffic.known (.inr rides))
  obtain ⟨first, later, -, journey, -, entered⟩ :=
    recorded.along placed.traffic found member rfl
  rw [follows.entry_eq_presence recorded known, journey, entered]
  rfl

variable (placed : world.Placed)
include placed

theorem Follows.mem_present_iff {index : Nat} :
    index ∈ tracker.present ↔ index ∈ world.roads.fleet.map (·.2.agent.index) := by
  rw [mem_present, List.mem_map]
  constructor
  · intro among
    obtain ⟨agent, link, step, vehicle, -, -, member, own⟩ :=
      follows.exists_mem recorded known among
    exact ⟨(link, vehicle), member, congrArg Key.index own⟩
  · rintro ⟨⟨link, vehicle⟩, member, rfl⟩
    rw [follows.entry_of_mem recorded known placed member]
    exact Option.some_ne_none _

/-- The tracks count the vehicles on the roads. -/
theorem Follows.shows
    (manned : ∀ link vehicle, (link, vehicle) ∈ world.roads.fleet →
      modes[vehicle.agent.index]? = some vehicle.mode) : tracker.Shows world where
  among id := by
    constructor
    · intro among
      obtain ⟨agent, link, step, vehicle, found, trip, -⟩ := follows.exists_mem recorded known among
      exact ⟨agent, link, step, found, congrArg Trip.state trip⟩
    · rintro ⟨agent, link, step, found, moving⟩
      obtain ⟨vehicle, member, rfl⟩ := placed.exists_vehicle found moving
      rw [follows.entry_of_mem recorded known placed member]
      exact Option.some_ne_none _
  since id agent link step found moving := by
    obtain ⟨vehicle, member, rfl⟩ := placed.exists_vehicle found moving
    obtain ⟨queue, present, aboard⟩ := (Roads.mem_fleet placed.traffic.labelled).mp member
    exact ⟨queue, vehicle, present, aboard, rfl,
      follows.entry_of_mem recorded known placed member⟩
  modes mode track listed := by
    rw [List.countP_eq_length_filter]
    refine (follows.tallies.modes _ listed).trans (placed.card_eq List.filter_sublist ?_)
    intro index
    rw [presentOf, Finset.mem_filter, follows.mem_present_iff recorded known placed,
      follows.agentModes, List.mem_map, List.mem_map]
    constructor
    · rintro ⟨⟨⟨link, vehicle⟩, member, rfl⟩, own⟩
      rw [manned link vehicle member, Option.some.injEq] at own
      exact ⟨_, List.mem_filter.mpr ⟨member, decide_eq_true own⟩, rfl⟩
    · rintro ⟨⟨link, vehicle⟩, listed, rfl⟩
      obtain ⟨member, own⟩ := List.mem_filter.mp listed
      refine ⟨⟨_, member, rfl⟩, ?_⟩
      rw [manned link vehicle member, of_decide_eq_true own]
  total := by
    rw [follows.tallies.total, Roads.size_eq_length_fleet]
    exact placed.card_eq (.refl _) fun _ => follows.mem_present_iff recorded known placed

end Placed

/-- Where an interval leaves a tracker, with the bin that it closes, if any. -/
def through (tracker : FlowTracker α) (interval : Interval α) :
    Option (FlowBin α) × FlowTracker α :=
  (interval.events.foldl FlowTracker.record tracker).closeInterval interval.summary.tick

end FlowTracker

variable {σ : Type} {setup : SimSetup α σ} {start sim : Sim α σ} {history : List (Interval α)}

theorem SimSetup.tracker_of_build (built : setup.build = .ok start) :
    (setup.tracker = none ∧ start.tracker = none) ∨
      ∃ config tracker, setup.tracker = some config ∧ start.tracker = some tracker ∧
        FlowTracker.new setup.network setup.table setup.population.modes config
          setup.config.tickSecs = .ok tracker := by
  simp only [build, Attempt.bind_eq_ok, Attempt.mapError_eq_ok, Attempt.pure_eq_ok] at built
  obtain ⟨_, -, _, -, roads, -, tracker?, made, rfl⟩ := built
  cases given : setup.tracker with
  | none =>
      rw [given] at made
      cases made
      exact .inl ⟨rfl, rfl⟩
  | some config =>
      rw [given] at made
      simp only [Option.mapM_some, Attempt.map_eq_ok, Attempt.mapError_eq_ok] at made
      obtain ⟨tracker, made, rfl⟩ := made
      exact .inr ⟨config, tracker, rfl, rfl, made⟩

namespace Sim.Run

variable (built : setup.build = .ok start) (fresh : setup.population.Fresh)
include built

theorem modes_eq (run : Run start history sim) :
    sim.world.population.modes = setup.population.modes := by
  have starts := SimSetup.build_eq_ok built
  obtain ⟨roads, -, world⟩ := starts.world
  have first : start.world.population = setup.population := by rw [world]
  exact first ▸ Population.modes_eq run.world.unbegun

theorem exists_tracker (run : Run start history sim) {config : TrackerConfig α}
    (given : setup.tracker = some config) : ∃ tracker, sim.tracker = some tracker := by
  induction run with
  | start =>
      obtain ⟨untracked, -⟩ | ⟨-, tracker, -, tracked, -⟩ := SimSetup.tracker_of_build built
      · cases untracked.symm.trans given
      · exact ⟨tracker, tracked⟩
  | step _ simulated stepped ih =>
      obtain ⟨tracker, tracked⟩ := ih
      exact ⟨_, (Sim.step_tracker simulated stepped).trans (congrArg _ tracked)⟩
  | ended _ ih => exact ih

include fresh

theorem exists_recorded (run : Run start history sim) :
    ∃ journeys, Recorded (heard history) sim.world.roads sim.world.population journeys :=
  Recorded.run run.world (.of_build built fresh) (.of_build built fresh)

theorem alternates_next (run : Run start history sim) {interval : Interval α}
    (simulated : sim.world.interval sim.flowPermanent = .ok interval) :
    Alternates (heard history ++ interval.events.toList) ∧
      ∀ event ∈ interval.events.toList, event.agent.index < setup.population.modes.size := by
  obtain ⟨stop, next, stepped⟩ := Sim.step_isOk simulated {}
  have whole := run.step simulated stepped
  obtain ⟨journeys, recorded⟩ := whole.exists_recorded built fresh
  rw [heard_append, heard_singleton] at recorded
  refine ⟨recorded.alternates, fun event member => ?_⟩
  rw [← whole.modes_eq built]
  exact recorded.known (List.mem_append_right _ member)

theorem follows (run : Run start history sim) {tracker : FlowTracker α}
    (tracked : sim.tracker = some tracker) :
    tracker.Follows setup.population.modes (heard history) := by
  induction run generalizing tracker with
  | start =>
      obtain ⟨-, untracked⟩ | ⟨config, first, -, began, made⟩ := SimSetup.tracker_of_build built
      · cases untracked.symm.trans tracked
      · cases began.symm.trans tracked
        exact .of_new made
  | step before simulated stepped ih =>
      obtain ⟨alternates, known⟩ := before.alternates_next built fresh simulated
      rw [Sim.step_tracker simulated stepped, Option.map_eq_some_iff] at tracked
      obtain ⟨earlier, tracked, rfl⟩ := tracked
      rw [heard_append, heard_singleton, ← Array.foldl_toList]
      exact ((ih tracked).foldl_record known alternates).closeInterval _
  | ended _ ih => exact ih tracked

variable {tracker : FlowTracker α} {interval : Interval α}

theorem not_saturates (run : Run start history sim) (tracked : sim.tracker = some tracker)
    (simulated : sim.world.interval sim.flowPermanent = .ok interval) {done rest : List Event}
    {event : Event} (parts : interval.events.toList = done ++ event :: rest) :
    ¬(done.foldl FlowTracker.record tracker).Saturates event := by
  obtain ⟨alternates, known⟩ := run.alternates_next built fresh simulated
  rw [parts] at known
  rw [parts, ← List.append_assoc] at alternates
  exact ((run.follows built fresh tracked).foldl_record
    (fun event member => known event (List.mem_append_left _ member))
    alternates.of_append).tallies.not_saturates event

variable (sound : setup.network.Sound)
include sound

theorem manned (run : Run start history sim) {link : LinkId} {vehicle : Vehicle α}
    (member : (link, vehicle) ∈ sim.world.roads.fleet) :
    setup.population.modes[vehicle.agent.index]? = some vehicle.mode := by
  obtain ⟨journeys, chronicled⟩ := (World.Chronicled.of_build built fresh).run sound run.world
  have rides : vehicle.agent ∈ sim.world.roads.riders := List.mem_map_of_mem member
  obtain ⟨agent, found⟩ :=
    Option.isSome_iff_exists.mp (chronicled.placed.traffic.known (.inr rides))
  rw [← run.modes_eq built, Population.modes, Array.getElem?_map,
    chronicled.traffic.timed.mode member found]
  exact congrArg (Option.map Agent.mode) found

theorem shows (run : Run start history sim)
    (follows : tracker.Follows setup.population.modes (heard history)) :
    tracker.Shows sim.world := by
  obtain ⟨journeys, recorded⟩ := run.exists_recorded built fresh
  have placed := (World.Placed.of_build built fresh).run run.world
  exact follows.shows recorded (run.modes_eq built) placed
    fun link vehicle member => run.manned built fresh sound member

/-- A bin that the next interval closes tells of the vehicles that are on the roads then. -/
theorem agents_of_bin (run : Run start history sim) (tracked : sim.tracker = some tracker)
    (simulated : sim.world.interval sim.flowPermanent = .ok interval) {bin : FlowBin α}
    (closed : (tracker.through interval).1 = some bin) :
    bin.total.agents = interval.summary.onNetwork ∧
      (bin.modes.map (·.2.agents)).sum = interval.summary.onNetwork := by
  obtain ⟨alternates, known⟩ := run.alternates_next built fresh simulated
  obtain ⟨stop, next, stepped⟩ := Sim.step_isOk simulated {}
  have whole := run.step simulated stepped
  have told := (run.follows built fresh tracked).foldl_record known alternates
  have shows := whole.shows built fresh sound (by rwa [heard_append, heard_singleton])
  obtain ⟨again, simulated', takes⟩ := Sim.step_eq_ok stepped
  cases simulated.symm.trans simulated'
  have size : interval.summary.onNetwork = next.world.roads.size := by
    rw [takes.world]
    exact World.onNetwork_eq_size simulated
  rw [FlowTracker.through, ← Array.foldl_toList] at closed
  obtain ⟨total, modes⟩ := FlowTracker.agents_of_closeInterval closed
  rw [modes, total, told.tallies.sum_modes told.ready, and_self, size]
  exact shows.total

end Sim.Run

end MixedTraffic

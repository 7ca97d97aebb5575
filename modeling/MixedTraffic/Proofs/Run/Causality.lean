import MixedTraffic.Proofs.Amendment
import MixedTraffic.Proofs.Run.Accord
import MixedTraffic.Proofs.Run.Audience

namespace MixedTraffic

/-! What is to come has no effect before its time: neither the departures of more agents nor more
changes of the network. -/

open Attempt (Agree)

namespace Calendar

variable {bound tick : Tick} {change : List AgentId → List AgentId}

/-- The slots of the intervals before a bound. -/
def before (calendar : Calendar) (bound : Tick) : List (Tick × List AgentId) :=
  calendar.slots.takeWhile fun slot => decide (slot.1 < bound)

theorem takeWhile_updateSlot_of_le (late : bound ≤ tick) (slots : List (Tick × List AgentId)) :
    (updateSlot tick change slots).takeWhile (fun slot => decide (slot.1 < bound)) =
      slots.takeWhile fun slot => decide (slot.1 < bound) := by
  induction slots with
  | nil => simp [updateSlot, late]
  | cons slot rest ih =>
      obtain ⟨first, agents⟩ := slot
      unfold updateSlot
      split
      · rename_i sooner
        have later : bound ≤ first := Nat.le_trans late (Nat.le_of_lt sooner)
        simp [late, later]
      · split
        · rename_i same
          simp [same ▸ late]
        · simp [List.takeWhile_cons, ih]

theorem takeWhile_updateSlot_of_lt (early : tick < bound) (slots : List (Tick × List AgentId)) :
    (updateSlot tick change slots).takeWhile (fun slot => decide (slot.1 < bound)) =
      updateSlot tick change (slots.takeWhile fun slot => decide (slot.1 < bound)) := by
  induction slots with
  | nil => simp [updateSlot, early]
  | cons slot rest ih =>
      obtain ⟨first, agents⟩ := slot
      by_cases counted : first < bound
      · rw [List.takeWhile_cons_of_pos (by simpa using counted), updateSlot, updateSlot]
        split
        · simp [early, counted]
        · split <;> simp [counted, ih]
      · have sooner : tick < first := Nat.lt_of_lt_of_le early (Nat.le_of_not_lt counted)
        simp [updateSlot, sooner, early, counted]

theorem before_push {calendar : Calendar} (late : bound ≤ tick) (agent : AgentId) :
    (calendar.push tick agent).before bound = calendar.before bound :=
  takeWhile_updateSlot_of_le late calendar.slots

theorem before_requeue {calendar calendar' : Calendar}
    (same : calendar'.before bound = calendar.before bound) (tick : Tick) (agents : List AgentId) :
    (calendar'.requeue tick agents).before bound = (calendar.requeue tick agents).before bound := by
  unfold requeue
  split
  · exact same
  · -- The interval of the retries may be the one at the bound.
    by_cases early : tick < bound
    · exact (takeWhile_updateSlot_of_lt early _).trans
        ((congrArg _ same).trans (takeWhile_updateSlot_of_lt early _).symm)
    · replace early := Nat.le_of_not_lt early
      exact (takeWhile_updateSlot_of_le early _).trans
        (same.trans (takeWhile_updateSlot_of_le early _).symm)

theorem drain_eq (early : tick < bound) (calendar : Calendar) :
    (calendar.drain tick).1 =
        ((calendar.before bound).takeWhile fun slot => decide (slot.1 ≤ tick)).flatMap (·.2) ∧
      (calendar.drain tick).2.before bound =
        (calendar.before bound).dropWhile fun slot => decide (slot.1 ≤ tick) := by
  have implies (slot : Tick × List AgentId) (due : decide (slot.1 ≤ tick) = true) :
      decide (slot.1 < bound) = true :=
    decide_eq_true (Nat.lt_of_le_of_lt (of_decide_eq_true due) early)
  exact ⟨congrArg (List.flatMap _) (takeWhile_takeWhile implies calendar.slots).symm,
    takeWhile_dropWhile implies calendar.slots⟩

theorem before_ofPopulation {population : Population} {clock : Clock} {more : Array Agent}
    (late : ∀ agent ∈ more, bound ≤ clock.tickAtOrAfter agent.departureSecs) :
    (ofPopulation ⟨population.agents ++ more⟩ clock).before bound =
      (ofPopulation population clock).before bound := by
  rw [ofPopulation, Array.foldl_append]
  exact Array.foldl_induction (fun _ (calendar : Calendar) => calendar.before bound =
    (ofPopulation population clock).before bound) rfl fun position calendar same =>
      (before_push (late _ (Array.getElem_mem _)) _).trans same

end Calendar

variable {α σ τ : Type} [Quantity α] {bound : Tick} {more : Array Agent}

/-- What an interval makes known. -/
def Interval.told (interval : Interval α) : Array Event × IntervalSummary :=
  (interval.events, interval.summary)

namespace World

variable {world world' : World α}

/-- Whether a change is made before a bound. -/
def isBefore (clock : Clock) (bound : Tick) (change : NetworkChange α) : Bool :=
  decide (clock.tickAtOrAfter change.atSecs < bound)

/-- The second world is the first in company, up to a bound. -/
structure JoinedUntil (bound : Tick) (more : Array Agent) (world world' : World α) : Prop where
  joined : world.Joined more world'
  departures : world'.departures.before bound = world.departures.before bound
  changes : world'.changes.takeWhile (isBefore world.clock bound) =
    world.changes.takeWhile (isBefore world.clock bound)

theorem Joined.isDue (joined : world.Joined more world') : world'.isDue = world.isDue := by
  funext change
  rw [World.isDue, joined.clock, World.isDue]

theorem isBefore_of_isDue (early : world.clock.now < bound) (change : NetworkChange α)
    (due : world.isDue change = true) : isBefore world.clock bound change = true :=
  decide_eq_true (Nat.lt_of_le_of_lt (of_decide_eq_true due) early)

namespace JoinedUntil

variable (ahead : world.JoinedUntil bound more world') (early : world.clock.now < bound)
include ahead early

theorem sharesDue : world.SharesDue world' := by
  have now : world'.clock.now = world.clock.now := by rw [ahead.joined.clock]
  constructor
  · rw [ahead.joined.isDue, ← takeWhile_takeWhile (isBefore_of_isDue early), ahead.changes,
      takeWhile_takeWhile (isBefore_of_isDue early)]
  · rw [now, (Calendar.drain_eq early _).1, (Calendar.drain_eq early _).1, ahead.departures]

theorem interval (placed : world.Placed) (flowPermanent : Bool) :
    Agree (Interrupted.Alike (Joined more)) (fun interval interval' =>
        interval'.told = interval.told ∧ interval.next.JoinedUntil bound more interval'.next)
      (world.interval flowPermanent) (world'.interval flowPermanent) := by
  have now : world'.clock.now = world.clock.now := by rw [ahead.joined.clock]
  have indifferent : world.population.Indifferent (world.context flowPermanent)
      (world'.context flowPermanent) := by
    rw [context, context, now]
    exact fun _ agent _ => .refl agent.driver _
  have agree := (ahead.joined.interval (ahead.sharesDue early) placed indifferent).reached
  refine agree.imp (fun _ _ same => same) ?_
  rintro interval interval' ⟨simulated, simulated', same⟩
  obtain ⟨retry, left, left'⟩ := same.departures
  refine ⟨Prod.ext same.events same.summary, ⟨?_, ?_, ?_⟩⟩
  · obtain ⟨clock, network, table, roads, population⟩ := same.joined
    exact ⟨congrArg Clock.advance clock, network, table, roads, population⟩
  · rw [Interval.next, Interval.next, left, left', now]
    refine Calendar.before_requeue ?_ ..
    rw [(Calendar.drain_eq early _).2, (Calendar.drain_eq early _).2, ahead.departures]
  · have same' : isBefore (α := α) interval.next.clock bound = isBefore world.clock bound := by
      rw [Interval.next, (interval_clock simulated).1]
      rfl
    rw [same', Interval.next, Interval.next, interval_changes simulated,
      interval_changes simulated', ahead.joined.isDue,
      takeWhile_dropWhile (isBefore_of_isDue early),
      takeWhile_dropWhile (isBefore_of_isDue early), ahead.changes]

end JoinedUntil

end World

namespace Sim

theorem closeInterval_flowPermanent {sim : Sim α σ} (untracked : sim.tracker = none)
    (observer : Observer α σ) (tick : Tick) :
    (sim.closeInterval observer tick).flowPermanent = sim.flowPermanent := by
  unfold closeInterval
  rw [untracked]

theorem report_flowPermanent (sim : Sim α σ) (observer : Observer α σ)
    (summary : IntervalSummary) :
    (sim.report observer summary).flowPermanent = sim.flowPermanent := by
  unfold report
  dsimp only
  split <;> rfl

theorem shouldStop_flowPermanent (sim : Sim α σ) (summary : IntervalSummary) :
    (sim.shouldStop summary).2.flowPermanent = sim.flowPermanent := by
  unfold shouldStop
  cases sim.stopRule <;> rfl

/-- Without a tracker, nothing ever makes flow permanent. -/
theorem step_untracked {sim sim' : Sim α σ} {observer : Observer α σ} {stop : Bool}
    (untracked : sim.tracker = none) (stepped : sim.step observer = .ok (stop, sim')) :
    sim'.tracker = none ∧ sim'.flowPermanent = sim.flowPermanent := by
  obtain ⟨interval, simulated, -⟩ := step_eq_ok stepped
  refine ⟨by rw [step_tracker simulated stepped, untracked]; rfl, ?_⟩
  simp only [step, Attempt.bind_eq_ok, Attempt.mapError_eq_ok, Attempt.pure_eq_ok,
    Prod.mk.injEq] at stepped
  obtain ⟨again, -, -, rfl⟩ := stepped
  rw [shouldStop_flowPermanent, report_flowPermanent]
  refine (closeInterval_flowPermanent ?_ ..).trans rfl
  rw [dispatch]
  exact congrArg (Option.map _) untracked

theorem Run.untracked {start sim : Sim α σ} {history : List (Interval α)}
    (untracked : start.tracker = none) (run : Run start history sim) :
    sim.tracker = none ∧ sim.flowPermanent = start.flowPermanent := by
  induction run with
  | start => exact ⟨untracked, rfl⟩
  | step _ _ stepped ih =>
      obtain ⟨still, same⟩ := step_untracked ih.1 stepped
      exact ⟨still, same.trans ih.2⟩
  | ended _ ih => exact ih

/-- Two runs that have told the same so far and are in the same state up to a bound, but for more
agents in the second. -/
structure SharesPast (bound : Tick) (more : Array Agent) (start : Sim α σ) (start' : Sim α τ)
    (history history' : List (Interval α)) (sim : Sim α σ) (sim' : Sim α τ) : Prop where
  run : Run start history sim
  run' : Run start' history' sim'
  told : history'.map Interval.told = history.map Interval.told
  totals : sim'.totals = sim.totals
  world : sim.world.JoinedUntil bound more sim'.world

theorem SharesPast.step {start sim : Sim α σ} {start' sim' : Sim α τ}
    {history history' : List (Interval α)}
    (shares : SharesPast bound more start start' history history' sim sim')
    (early : sim.now < bound) (placed : sim.world.Placed)
    (flow : sim'.flowPermanent = sim.flowPermanent) (observer : Observer α σ)
    (observer' : Observer α τ) :
    Agree (Stalled (SharesPast bound more start start' history history') (World.Joined more)
        observer observer')
      (fun next next' => ∃ interval interval',
        SharesPast bound more start start' (history ++ [interval]) (history' ++ [interval'])
          next.2 next'.2)
      (sim.step observer) (sim'.step observer') := by
  have agree : Agree (Interrupted.Alike (World.Joined more)) (fun interval interval' =>
      interval'.told = interval.told ∧ interval.next.JoinedUntil bound more interval'.next)
      (sim.world.interval sim.flowPermanent) (sim'.world.interval sim'.flowPermanent) := by
    rw [flow]
    exact shares.world.interval early placed sim.flowPermanent
  refine (step_agree agree shares observer observer').imp (fun _ _ same => same) ?_
  rintro ⟨stop, next⟩ ⟨stop', next'⟩
    ⟨interval, interval', ran, ran', ⟨told, world⟩, stepped, stepped'⟩
  obtain ⟨_, again, takes⟩ := step_eq_ok stepped
  obtain ⟨_, again', takes'⟩ := step_eq_ok stepped'
  cases ran.symm.trans again
  cases ran'.symm.trans again'
  refine ⟨interval, interval', shares.run.step ran stepped, shares.run'.step ran' stepped',
    ?_, ?_, ?_⟩
  · rw [List.map_append, List.map_append, shares.told, List.map_singleton, told]
    rfl
  · have summary : interval'.summary = interval.summary := congrArg Prod.snd told
    rw [takes.totals, takes'.totals, shares.totals, summary]
  · rw [takes.world, takes'.world]
    exact world

end Sim

/-- That a second setup has, beside what the first has, only agents who depart no sooner than a
bound and changes that are made no sooner. -/
structure SimSetup.AddsLater (setup : SimSetup α σ) (bound : Tick) (more : Array Agent)
    (larger : SimSetup α τ) : Prop where
  config : larger.config = setup.config
  network : larger.network = setup.network
  table : larger.table = setup.table
  dynamics : larger.dynamics = setup.dynamics
  untracked : setup.tracker = none
  untracked' : larger.tracker = none
  population : larger.population = setup.population.joinedBy more
  late : ∀ agent ∈ more, bound ≤ setup.config.clock.tickAtOrAfter agent.departureSecs
  changes : larger.changes.filter (World.isBefore setup.config.clock bound) =
    setup.changes.filter (World.isBefore setup.config.clock bound)
  valid : ∀ change ∈ larger.changes, change.check setup.network = .ok ()

theorem SimSetup.takeWhile_sortChanges {α : Type} (clock : Clock) (bound : Tick)
    (changes : List (NetworkChange α)) :
    (sortChanges changes).takeWhile (World.isBefore clock bound) =
      sortChanges (changes.filter (World.isBefore clock bound)) := by
  have sorted := List.pairwise_mergeSort NetworkChange.noLater_trans NetworkChange.noLater_total
    changes
  refine (takeWhile_eq_filter (sorted.imp fun {change later} ordered before => ?_)).trans
    (filter_mergeSort NetworkChange.noLater_trans NetworkChange.noLater_total _ changes)
  have secs : change.atSecs ≤ later.atSecs := of_decide_eq_true ordered
  exact decide_eq_true (Nat.lt_of_le_of_lt
    (Nat.div_le_div_right (Nat.add_le_add_right (Nat.sub_le_sub_right secs _) _))
    (of_decide_eq_true before))

theorem SimSetup.untracked_of_build {setup : SimSetup α σ} {start : Sim α σ}
    (untracked : setup.tracker = none) (built : setup.build = .ok start) :
    start.tracker = none ∧ start.flowPermanent = false := by
  simp only [build, untracked, Option.mapM_none, Attempt.bind_eq_ok, Attempt.pure_eq_ok] at built
  obtain ⟨_, -, _, -, roads, -, tracker?, rfl, rfl⟩ := built
  exact ⟨rfl, rfl⟩

namespace SimSetup.AddsLater

variable {setup : SimSetup α σ} {larger : SimSetup α τ} {start : Sim α σ} {start' : Sim α τ}

theorem exists_start (adds : setup.AddsLater bound more larger)
    (built : setup.build = .ok start) : ∃ start', larger.build = .ok start' := by
  have starts := SimSetup.build_eq_ok built
  have checked : larger.config.check (α := α) = .ok () := adds.config ▸ starts.config
  have valid : larger.changes.forM (·.check larger.network) = .ok () :=
    Attempt.forM_eq_ok.mpr (adds.network ▸ adds.valid)
  have opened : Roads.ofNetwork larger.network larger.dynamics larger.table
      larger.config.tickSecs = .ok start.world.roads := by
    rw [adds.network, adds.dynamics, adds.table, adds.config, starts.opened]
  simp only [build, checked, valid, opened, adds.untracked']
  exact ⟨_, rfl⟩

theorem world (adds : setup.AddsLater bound more larger) (built : setup.build = .ok start)
    (built' : larger.build = .ok start') : start.world.JoinedUntil bound more start'.world := by
  obtain ⟨roads, opened, world⟩ := (SimSetup.build_eq_ok built).world
  obtain ⟨roads', opened', world'⟩ := (SimSetup.build_eq_ok built').world
  rw [adds.network, adds.dynamics, adds.table, adds.config, opened] at opened'
  cases opened'
  rw [world, world', adds.network, adds.table, adds.config, adds.population]
  refine ⟨⟨rfl, rfl, rfl, rfl, rfl⟩, Calendar.before_ofPopulation adds.late, ?_⟩
  rw [takeWhile_sortChanges, takeWhile_sortChanges, adds.changes]

end SimSetup.AddsLater

/-- Causality: agents who depart no sooner than a bound, and valid changes that are made no sooner,
have no effect before it. Up to the bound the run with them tells the same of each interval and has
the same counters and the same roads; the agents of the first run are in the same states, and those
added have not changed. It stops in an interval if and only if the other does, for the same reason
and as far on. -/
theorem Sim.runTicks_of_addsLater {setup : SimSetup α σ} {larger : SimSetup α τ}
    {start : Sim α σ} {draft : PopulationDraft} (adds : setup.AddsLater bound more larger)
    (drafted : draft.Drafted) (populated : draft.build setup.table = .ok setup.population)
    (built : setup.build = .ok start) :
    ∃ start', larger.build = .ok start' ∧ ∀ count ≤ bound, ∀ observer observer',
      Agree
        (Stalled (fun sim sim' => ∃ history history', history.length < count ∧
            SharesPast bound more start start' history history' sim sim')
          (World.Joined more) observer observer')
        (fun sim sim' => ∃ history history', history.length = count ∧
          SharesPast bound more start start' history history' sim sim')
        (start.runTicks observer count) (start'.runTicks observer' count) := by
  obtain ⟨start', built'⟩ := adds.exists_start built
  refine ⟨start', built', fun count within observer observer' => ?_⟩
  have fresh := drafted.fresh_of_build populated
  obtain ⟨untracked, closed⟩ := SimSetup.untracked_of_build adds.untracked built
  obtain ⟨untracked', closed'⟩ := SimSetup.untracked_of_build adds.untracked' built'
  have starts : SharesPast bound more start start' [] [] start start' := by
    refine ⟨.start, .start, rfl, ?_, adds.world built built'⟩
    rw [(SimSetup.build_eq_ok built').totals, (SimSetup.build_eq_ok built).totals]
  refine runTicks_agree (fun tick sim sim' => ∃ history history', history.length = tick ∧
    SharesPast bound more start start' history history' sim sim') ?_ ⟨[], [], rfl, starts⟩
  rintro tick bounded sim sim' ⟨history, history', length, shares⟩
  have ran := shares.run.world
  have now : sim.now = tick := by
    obtain ⟨roads, -, world⟩ := (SimSetup.build_eq_ok built).world
    rw [now, ran.clock, world, ← length]
    exact Nat.zero_add _
  have flow : sim'.flowPermanent = sim.flowPermanent := by
    rw [(shares.run'.untracked untracked').2, (shares.run.untracked untracked).2, closed, closed']
  have agree := shares.step (now ▸ Nat.lt_of_lt_of_le bounded within)
    ((World.Placed.of_build built fresh).run ran) flow observer observer'
  refine agree.imp ?_ ?_
  · rintro stopped stopped' ⟨cause, world, before, before', shares, fails⟩
    exact ⟨cause, world, before, before', ⟨history, history', length ▸ bounded, shares⟩, fails⟩
  · rintro next next' ⟨interval, interval', shares⟩
    exact ⟨_, _, by rw [List.length_append, length, List.length_singleton], shares⟩

namespace Bottleneck

def laterAgent : Agent where
  id := ⟨1⟩
  mode := narrow
  departureSecs := 2
  driver := .fixed [entry, exit]

def laterChange : NetworkChange Rat where
  atSecs := 2
  link := entry
  freeSpeed := some 5
  flowCapacity := none

/-- The setup with one more agent and a change, both in the third interval. -/
def extended (network : Network Rat) (population : Population) : SimSetup Rat Unit :=
  { setup network population with
    population := population.joinedBy #[laterAgent]
    changes := [laterChange] }

theorem addsLater_extended {network : Network Rat} (population : Population)
    (valid : laterChange.check network = .ok ()) :
    (setup network population).AddsLater 2 #[laterAgent] (extended network population) where
  config := rfl
  network := rfl
  table := rfl
  dynamics := rfl
  untracked := rfl
  untracked' := rfl
  population := rfl
  late := by
    intro agent member
    obtain rfl := Array.mem_singleton.mp member
    exact (by decide : 2 ≤ ({ startSecs := 0, tickSecs := 1 } : Clock).tickAtOrAfter 2)
  changes := List.filter_cons_of_neg (Bool.not_eq_true _ ▸
    (by decide : World.isBefore { startSecs := 0, tickSecs := 1 } 2 laterChange = false))
  valid := List.forall_mem_singleton.mpr valid

/-- The two runs part in the third interval, in which the second agent departs. -/
theorem runTicks_of_extended :
    ∃ network population start start' sim sim' later later' history history',
      draft.build = .ok network ∧
      (crowd [(wide, 0, [entry, exit])]).build table = .ok population ∧
      (setup network population).build = .ok start ∧
      (extended network population).build = .ok start' ∧ start.runTicks {} 2 = .ok sim ∧
      start'.runTicks {} 2 = .ok sim' ∧ start.runTicks {} 3 = .ok later ∧
      start'.runTicks {} 3 = .ok later' ∧ later.totals.departed = 1 ∧
      later'.totals.departed = 2 ∧ history.length = 2 ∧
      Sim.SharesPast 2 #[laterAgent] start start' history history' sim sim' := by
  have ran : drive? draft [(wide, 0, [entry, exit])] setup 2 (fun network population start _ =>
        (laterChange.check network).toOption.bind fun (_ : Unit) =>
        (extended network population).build.toOption.bind fun start' =>
        (start'.runTicks {} 2).toOption.bind fun (_ : Sim Rat Unit) =>
        (start.runTicks {} 3).toOption.bind fun later =>
        (start'.runTicks {} 3).toOption.map fun later' =>
          (later.totals.departed, later'.totals.departed)) = some (1, 2) := by decide +kernel
  obtain ⟨network, population, start, sim, _, connected, populated, built, ticked, -, seen⟩ :=
    exists_of_drive? ran
  simp only [Option.bind_eq_some_iff, Option.map_eq_some_iff, Attempt.toOption_eq_some,
    Prod.mk.injEq] at seen
  obtain ⟨_, valid, start', built', sim', ticked', later, went, later', went', one, two⟩ := seen
  obtain ⟨again, rebuilt, agree⟩ := Sim.runTicks_of_addsLater (addsLater_extended population valid)
    (crowd_drafted _) populated built
  cases built'.symm.trans rebuilt
  replace agree := agree 2 le_rfl {} {}
  rw [ticked, ticked'] at agree
  obtain ⟨history, history', length, shares⟩ := agree
  exact ⟨network, population, start, start', sim, sim', later, later', history, history', connected,
    populated, built, built', ticked, ticked', went, went', one, two, length, shares⟩

end Bottleneck

end MixedTraffic

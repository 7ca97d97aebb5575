import MixedTraffic.Proofs.Run.Company
import MixedTraffic.Proofs.Run.Whereabouts

namespace MixedTraffic

/-! One interval of two worlds of which the second is the first in company: where the same
departures and the same changes are due, it is the same interval. -/

open Attempt (Agree)

variable {α : Type} [Quantity α] {more : Array Agent}

/-- The second world is the first with more agents, apart from what is still to come. -/
structure World.Joined (more : Array Agent) (world world' : World α) : Prop where
  clock : world'.clock = world.clock
  network : world'.network = world.network
  table : world'.table = world.table
  roads : world'.roads = world.roads
  population : world'.population = world.population.joinedBy more

/-- That the same is due in two worlds in the current interval. -/
structure World.SharesDue (world world' : World α) : Prop where
  changes : world'.changes.takeWhile world'.isDue = world.changes.takeWhile world.isDue
  departures : (world'.departures.drain world'.clock.now).1 =
    (world.departures.drain world.clock.now).1

/-- What departures were left over, and who comes back to depart in the next interval. -/
def World.Resumes (world : World α) (retry : List AgentId) (calendar : Calendar) : Prop :=
  calendar = (world.departures.drain world.clock.now).2.requeue (world.clock.now + 1) retry

/-- That an interval of the second world is that of the first in company. -/
structure Interval.Joined (more : Array Agent) (world world' : World α)
    (interval interval' : Interval α) : Prop where
  events : interval'.events = interval.events
  summary : interval'.summary = interval.summary
  joined : interval.world.Joined more interval'.world
  departures : ∃ retry, world.Resumes retry interval.world.departures ∧
    world'.Resumes retry interval'.world.departures

namespace World

variable {world world' : World α} {flowPermanent flowPermanent' : Bool}

theorem Joined.refl (world : World α) : world.Joined #[] world :=
  ⟨rfl, rfl, rfl, rfl, (Population.joinedBy_empty _).symm⟩

theorem SharesDue.refl (world : World α) : world.SharesDue world := ⟨rfl, rfl⟩

theorem Placed.refilled {changed : World α} (placed : world.Placed)
    (made : world.applyChanges = .ok changed) :
    World.Placed { changed with roads := changed.roads.refill } := by
  have revises := applyChanges_revises made
  refine ⟨revises.departures ▸ placed.sized, ?_⟩
  exact placed.traffic.of_perm (.of_eq (congrArg Calendar.entries revises.departures))
    (refilled_like made) revises.population

theorem Placed.index_lt_of_due (placed : world.Placed) :
    ∀ id ∈ (world.departures.drain world.clock.now).1, id.index < world.population.size := by
  intro id due
  have listed : id ∈ world.departures.entries := by
    rw [← Calendar.drain_append world.departures world.clock.now]
    exact List.mem_append_left _ due
  exact Population.isSome_get?.mp (placed.traffic.known (.inl listed))

namespace Joined

theorem applyChange (joined : world.Joined more world') (change : NetworkChange α) :
    Agree (Interrupted.Alike (Joined more)) (Joined more) (world.applyChange change)
      (world'.applyChange change) := by
  rw [World.applyChange, World.applyChange, joined.network, joined.roads, joined.table]
  refine (Agree.same_stop _ RunError.network joined).bind fun network _ same => ?_
  exact same ▸ .ok ⟨joined.clock, rfl, rfl, rfl, joined.population⟩

theorem applyChanges (joined : world.Joined more world') (shares : world.SharesDue world') :
    Agree (Interrupted.Alike (Joined more)) (Joined more) world.applyChanges
      world'.applyChanges := by
  rw [World.applyChanges, World.applyChanges, shares.changes]
  exact Agree.foldlM (fun change _ _ _ joined => joined.applyChange change) joined

theorem reach (joined : world.Joined more world') {size : Nat} {traffic traffic' : Traffic α}
    (reached : traffic.Joined more size traffic') :
    (world.reach traffic).Joined more (world'.reach traffic') :=
  ⟨joined.clock, joined.network, joined.table, reached.roads, reached.population⟩

theorem drain? (joined : world.Joined more world') :
    Agree (Interrupted.Alike (Joined more))
      (fun left left' => world.departures.drain world.clock.now = left ∧
        world'.departures.drain world'.clock.now = left')
      ((world.departures.drain? α world.clock.now).elim
        (.error ⟨(.road (.noSuchTick (world.clock.now + 1)) : RunError α), world⟩) .ok)
      ((world'.departures.drain? α world'.clock.now).elim
        (.error ⟨(.road (.noSuchTick (world'.clock.now + 1)) : RunError α), world'⟩) .ok) := by
  rw [Calendar.drain?, Calendar.drain?, joined.clock]
  cases world.clock.now.after? α 1 with
  | none => exact .error ⟨rfl, joined⟩
  | some next => exact .ok ⟨rfl, rfl⟩

theorem departures? (joined : world.Joined more world')
    (shares : (world'.departures.drain world'.clock.now).1 =
      (world.departures.drain world.clock.now).1)
    (placed : world.Placed)
    (indifferent : world.population.Indifferent (world.context flowPermanent)
      (world'.context flowPermanent')) :
    Agree (Interrupted.Alike (Joined more))
      (fun left left' => left'.1 = left.1 ∧
        left.2.1.Joined more world.population.size left'.2.1 ∧
        ∃ retry, world.Resumes retry left.2.2 ∧ world'.Resumes retry left'.2.2)
      (world.departures? (world.context flowPermanent))
      (world'.departures? (world'.context flowPermanent')) := by
  have start : Traffic.Joined more world.population.size
      { roads := world.roads, population := world.population }
      { roads := world'.roads, population := world'.population } :=
    ⟨rfl, joined.roads, rfl, joined.population⟩
  have known := placed.index_lt_of_due
  have now : world'.clock.now = world.clock.now := by rw [joined.clock]
  have departed := start.departAll world.table now indifferent known
  rw [congrArg (Traffic.departAll · (world'.context flowPermanent') _ _) joined.table.symm]
    at departed
  refine joined.drain?.bind ?_
  rintro _ _ ⟨rfl, rfl⟩
  dsimp only
  rw [shares]
  refine (departed.within RunError.ofDeparture fun _ _ reached => ?_).bind ?_
  · exact ⟨joined.clock, joined.network, joined.table, reached.roads, reached.population⟩
  · rintro ⟨_, left⟩ ⟨outcomes, left'⟩ ⟨rfl, joined⟩
    exact .ok ⟨rfl, joined, _, rfl, rfl⟩

theorem interval (joined : world.Joined more world') (shares : world.SharesDue world')
    (placed : world.Placed)
    (indifferent : world.population.Indifferent (world.context flowPermanent)
      (world'.context flowPermanent')) :
    Agree (Interrupted.Alike (Joined more)) (Interval.Joined more world world')
      (world.interval flowPermanent) (world'.interval flowPermanent') := by
  refine (joined.applyChanges shares).reached.bind ?_
  rintro changed changed' ⟨made, made', changes⟩
  have revises := applyChanges_revises made
  have revises' := applyChanges_revises made'
  have whole := placed.refilled made
  have begun : Joined more { changed with roads := changed.roads.refill }
      { changed' with roads := changed'.roads.refill } :=
    ⟨changes.clock, changes.network, changes.table, congrArg Roads.refill changes.roads,
      changes.population⟩
  rw [← revises.population] at indifferent
  have due := shares.departures
  rw [World.context, World.context, ← revises.clock, ← revises'.clock] at indifferent
  rw [← revises.clock, ← revises'.clock, ← revises.departures, ← revises'.departures] at due
  simp only [← revises.clock, ← revises'.clock]
  refine (begun.departures? due whole indifferent).reached.bind ?_
  rintro ⟨_, midway, calendar⟩ ⟨outcomes, midway', calendar'⟩ ⟨departed, -, rfl, joined, retry⟩
  obtain ⟨-, -, ⟨happenings, -, steps⟩, -⟩ := departures?_eq_ok.mp departed
  -- The nodes ask those who are on the roads now, and these are all agents of the first world.
  have settled := whole.traffic.steps steps
  have alike := indifferent.of_steps steps
  have known : ∀ id ∈ midway.roads.riders, id.index < changed.population.size := fun id rides =>
    joined.size ▸ Population.isSome_get?.mp (settled.known (.inr rides))
  have now : changed'.clock.now = changed.clock.now := by rw [changes.clock]
  have decides := joined.decideAll changed'.network now alike settled.labelled known
  rw [changes.network] at decides
  have reached : Joined more { changed with roads := changed.roads.refill, departures := calendar }
      { changed' with roads := changed'.roads.refill, departures := calendar' } :=
    ⟨changes.clock, changes.network, changes.table, begun.roads, changes.population⟩
  dsimp only at joined decides ⊢
  rw [(congrArg (decideAll · _ _) changes.network).trans decides]
  refine (Agree.same_stop _ RunError.road (reached.reach joined)).reached.bind ?_
  rintro decisions _ ⟨decided, -, rfl⟩
  rw [Attempt.mapError_eq_ok] at decided
  have moved (decision : NodeDecision) (listed : decision ∈ decisions) (move : Move)
      (member : move ∈ decision.moves) : move.agent.index < changed.population.size :=
    joined.size ▸ Traffic.index_lt_of_mem_moves settled.labelled decided listed member
  rw [now]
  have carried := joined.commitAll changed.clock.now moved
  refine (carried.within RunError.road fun _ _ => reached.reach).bind ?_
  intro final final' after
  obtain ⟨again, left, left'⟩ := retry
  refine .ok ⟨after.events, ?_, reached.reach after,
    again, ?_, ?_⟩
  · rw [after.roads]
  · rw [Resumes, ← revises.clock, ← revises.departures]
    exact left
  · rw [Resumes, ← revises'.clock, ← revises'.departures]
    exact left'

end Joined

theorem interval_indifferent {context context' : RouteContext} {interval : Interval α}
    (simulated : world.interval flowPermanent = .ok interval)
    (indifferent : world.population.Indifferent context context') :
    interval.next.population.Indifferent context context' := by
  obtain ⟨course, follows, rfl⟩ := interval_eq_ok.mp simulated
  have changed : course.changed.refilled.population.Indifferent context context' := by
    change course.changed.population.Indifferent context context'
    rwa [follows.revises.population]
  exact changed.of_steps follows.steps

theorem interval_changes {interval : Interval α}
    (simulated : world.interval flowPermanent = .ok interval) :
    interval.world.changes = world.changes.dropWhile world.isDue := by
  obtain ⟨course, follows, rfl⟩ := interval_eq_ok.mp simulated
  have left := changes_of_applyChanges follows.changed
  exact left

end World

namespace Sim

variable {σ τ : Type} {sim : Sim α σ} {sim' : Sim α τ}

/-- That a run breaks off in the next interval of a state. What the traffic has come to in it is
kept, and nobody who watches has heard of more than that it began. -/
structure BreaksOff (sim : Sim α σ) (observer : Observer α σ)
    (stopped : Interrupted (RunError α) (Sim α σ)) : Prop where
  failed : sim.step observer = .error stopped
  kept : stopped.reached =
    { sim.note (observer.startTick sim.now) with world := stopped.reached.world }

theorem BreaksOff.of_interval {halted : Interrupted (RunError α) (World α)}
    (failed : sim.world.interval sim.flowPermanent = .error halted) (observer : Observer α σ) :
    sim.BreaksOff observer (halted.within id fun world =>
      { sim.note (observer.startTick sim.now) with world }) :=
  ⟨step_eq_error.mpr ⟨halted, failed, rfl⟩, rfl⟩

/-- That two runs, alike so far, have both broken off in the interval after that, for one reason
and in worlds that correspond. -/
structure Stalled (alike : Sim α σ → Sim α τ → Prop) (corresponds : World α → World α → Prop)
    (observer : Observer α σ) (observer' : Observer α τ)
    (stopped : Interrupted (RunError α) (Sim α σ))
    (stopped' : Interrupted (RunError α) (Sim α τ)) : Prop where
  cause : stopped'.cause = stopped.cause
  world : corresponds stopped.reached.world stopped'.reached.world
  before : ∃ sim sim', alike sim sim' ∧ sim.BreaksOff observer stopped ∧
    sim'.BreaksOff observer' stopped'

/-- Two runs take a step alike if their intervals are alike. -/
theorem step_agree {alike : Interval α → Interval α → Prop}
    {corresponds : World α → World α → Prop} {before : Sim α σ → Sim α τ → Prop}
    (agree : Agree (Interrupted.Alike corresponds) alike
      (sim.world.interval sim.flowPermanent) (sim'.world.interval sim'.flowPermanent))
    (shares : before sim sim') (observer : Observer α σ) (observer' : Observer α τ) :
    Agree (Stalled before corresponds observer observer')
      (fun next next' => ∃ interval interval',
        sim.world.interval sim.flowPermanent = .ok interval ∧
        sim'.world.interval sim'.flowPermanent = .ok interval' ∧ alike interval interval' ∧
        sim.step observer = .ok next ∧ sim'.step observer' = .ok next')
      (sim.step observer) (sim'.step observer') := by
  generalize ran : sim.world.interval sim.flowPermanent = result at agree
  generalize ran' : sim'.world.interval sim'.flowPermanent = result' at agree
  cases agree with
  | ok same =>
      obtain ⟨stop, next, stepped⟩ := step_isOk ran observer
      obtain ⟨stop', next', stepped'⟩ := step_isOk ran' observer'
      rw [stepped, stepped']
      exact .ok ⟨_, _, rfl, rfl, same, rfl, rfl⟩
  | error halted =>
      have breaks := BreaksOff.of_interval ran observer
      have breaks' := BreaksOff.of_interval ran' observer'
      rw [breaks.failed, breaks'.failed]
      exact .error ⟨halted.cause, halted.reached, sim, sim', shares, breaks, breaks'⟩

/-- Two runs that take each of their steps alike end alike. -/
theorem runTicks_agree (related : Nat → Sim α σ → Sim α τ → Prop)
    {failed : Interrupted (RunError α) (Sim α σ) → Interrupted (RunError α) (Sim α τ) → Prop}
    {observer : Observer α σ} {observer' : Observer α τ} {count : Nat}
    (each : ∀ tick < count, ∀ sim sim', related tick sim sim' →
      Agree failed (fun next next' => related (tick + 1) next.2 next'.2) (sim.step observer)
        (sim'.step observer'))
    (starts : related 0 sim sim') :
    Agree failed (related count) (sim.runTicks observer count)
      (sim'.runTicks observer' count) := by
  induction count generalizing related sim sim' with
  | zero => exact .ok starts
  | succ count ih =>
      refine (each 0 (Nat.succ_pos count) sim sim' starts).bind fun next next' reached => ?_
      exact ih (fun tick => related (tick + 1))
        (fun tick bound => each (tick + 1) (Nat.succ_lt_succ bound)) reached

end Sim

end MixedTraffic

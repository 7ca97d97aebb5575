import MixedTraffic.Proofs.Route
import MixedTraffic.Proofs.Run.Timetable

namespace MixedTraffic

/-! Every due agent departs, is skipped, or finds its first link full, as long as the intervals
can be counted; there is nothing else that its departure can come to. -/

namespace Driver.Orderly

variable {α : Type} {network network' : Network α} {id : AgentId} {driver : Driver}

theorem of_alike (orderly : driver.Orderly network id) (alike : network'.Alike network) :
    driver.Orderly network' id where
  first departs chosen := by
    obtain ⟨link, found⟩ := Option.isSome_iff_exists.mp (orderly.first departs chosen)
    obtain ⟨link', found', -⟩ := alike.symm.link? found
    exact Option.isSome_of_eq_some found'
  next reaches chosen := alike.isSuccessor?_iff.mpr (orderly.next reaches chosen)

end Driver.Orderly

variable {α : Type}

namespace Traffic

variable {traffic : Traffic α} {pending : List AgentId}

theorem Placed.isPending (placed : traffic.Placed pending) {id : AgentId} {agent : Agent}
    (found : traffic.population.get? id = some agent) (due : id ∈ pending) :
    agent.trip.IsPending := by
  have listed := List.count_pos_iff.mpr due
  obtain ⟨place, shows⟩ := placed.shown found
  cases place with
  | pending => exact shows.1
  | enRoute =>
      rw [shows.1] at listed
      exact absurd listed (Nat.lt_irrefl 0)
  | finished =>
      rw [shows.2.1] at listed
      exact absurd listed (Nat.lt_irrefl 0)

theorem Placed.nodup_pending (placed : traffic.Placed pending) : pending.Nodup := by
  rw [List.nodup_iff_count_le_one]
  intro id
  by_cases due : id ∈ pending
  · obtain ⟨agent, found⟩ := Option.isSome_iff_exists.mp (placed.known (.inl due))
    obtain ⟨place, shows⟩ := placed.shown found
    cases place with
    | pending => exact Nat.le_of_eq shows.2.1
    | enRoute =>
        rw [shows.1]
        exact Nat.zero_le 1
    | finished =>
        rw [shows.2.1]
        exact Nat.zero_le 1
  · rw [List.count_eq_zero.mpr due]
    exact Nat.zero_le 1

end Traffic

variable [Quantity α]

/-- That an agent has a vehicle, and a driver that finds its way in a network. -/
structure Agent.Equipped (agent : Agent) (table : ModeTable α) (network : Network α)
    (id : AgentId) : Prop where
  typed : ∃ type, table.get? agent.mode = some type
  begins : ∀ context, ∃ link, agent.driver.firstLink? id context = some link
  orderly : agent.driver.Orderly network id

def Population.Equipped (population : Population) (table : ModeTable α)
    (network : Network α) : Prop :=
  ∀ ⦃id agent⦄, population.get? id = some agent → agent.Equipped table network id

namespace Population.Equipped

variable {population population' : Population} {table : ModeTable α}
  {network network' : Network α}

theorem of_build {draft : PopulationDraft} (populated : draft.build table = .ok population)
    (orderly : ∀ id agent, population.get? id = some agent → agent.driver.Orderly network id) :
    population.Equipped table network := by
  intro id agent found
  obtain ⟨checked, rfl⟩ := PopulationDraft.build_eq_ok.mp populated
  have passed := checked agent (Array.mem_of_getElem? found)
  unfold PopulationDraft.checkAgent at passed
  split at passed
  · cases passed
  · rename_i contained
    rw [Bool.not_eq_true, Bool.not_eq_false'] at contained
    have bound : agent.mode.index < table.types.size := of_decide_eq_true contained
    refine ⟨⟨_, Array.getElem?_eq_getElem bound⟩, fun context => ?_, orderly id agent found⟩
    generalize agent.driver = driver at passed
    cases driver with
    | fixed route =>
        cases route with
        | nil => cases passed
        | cons first rest => exact ⟨first, rfl⟩
    | circling ring => exact ⟨ring.home, rfl⟩
    | external chooser => exact ⟨_, rfl⟩

theorem of_unbegun (equipped : population.Equipped table network)
    (same : ∀ id, (population'.get? id).map Agent.unbegun =
      (population.get? id).map Agent.unbegun) : population'.Equipped table network := by
  intro id agent found
  obtain ⟨old, present, mode, driver, -⟩ := Population.exists_of_unbegun found (same id)
  obtain ⟨typed, begins, orderly⟩ := equipped present
  rw [mode] at typed
  rw [driver] at begins orderly
  exact ⟨typed, begins, orderly⟩

theorem of_alike (equipped : population.Equipped table network)
    (alike : network'.Alike network) : population.Equipped table network' := by
  intro id agent found
  obtain ⟨typed, begins, orderly⟩ := equipped found
  exact ⟨typed, begins, orderly.of_alike alike⟩

end Population.Equipped

namespace Traffic

variable {network : Network α} {table : ModeTable α} {traffic : Traffic α} {tickSecs : Nat}
  {pending due : List AgentId}

theorem Placed.exists_departure (placed : traffic.Placed pending)
    (equipped : traffic.population.Equipped table network)
    (mirrors : traffic.roads.Mirrors tickSecs network) (context : RouteContext)
    {id : AgentId} (due : id ∈ pending) :
    (∃ outcome happening traffic', happening.departure? = some (id, outcome) ∧
      Step table context traffic happening traffic') ∨
    ∃ stopped, depart table context traffic id = .error stopped ∧ stopped.cause.Uncounted := by
  obtain ⟨agent, found⟩ := Option.isSome_iff_exists.mp (placed.known (.inl due))
  have pending := placed.isPending found due
  obtain ⟨⟨type, typed⟩, begins, orderly⟩ := equipped found
  cases departs : agent.driver.departs context with
  | false => exact .inl ⟨_, .skipped id, _, rfl, .skipped found departs pending.act?_skip⟩
  | true =>
      obtain ⟨since, waits⟩ := pending.act?_wait context.now
      obtain ⟨link, first⟩ := begins context
      obtain ⟨queue, present⟩ := Option.isSome_iff_exists.mp
        ((mirrors.isSome_queue? link).trans (orderly.first departs first))
      obtain ⟨vehicle, built⟩ : ∃ vehicle, Vehicle.new? table id agent.mode = some vehicle :=
        ⟨_, Vehicle.new?_eq_some.mpr ⟨type, typed, rfl⟩⟩
      cases taken : queue.room.take? vehicle.pcu (traffic.roads.seeps agent.mode) with
      | some taking =>
          obtain ⟨seeping, room⟩ := taking
          by_cases dates : queue.Dates vehicle context.now
          · exact .inl ⟨_, .departed id link, _, rfl,
              .departed found departs first waits present built taken rfl dates⟩
          · let waiting : Traffic α := { traffic with
              population := traffic.population.set id
                { agent with trip := ⟨.waiting since, none⟩ } }
            have member : waiting.population.get? id = _ := Population.get?_set_self found _
            have present : waiting.roads.queue? link = some queue := present
            obtain ⟨stopped, failed, uncounted⟩ :=
              board_of_not_dates member present built taken dates
            refine .inr ⟨stopped, ?_, uncounted⟩
            obtain ⟨tick, same, -⟩ := uncounted
            rw [depart_of_waits found departs first waits, failed]
            exact if_neg (by simp [same, RoadError.isCapacity])
      | none =>
          cases patience : hasWaited { traffic with
              population := traffic.population.set id
                { agent with trip := ⟨.waiting since, none⟩ } } id context.now with
          | false =>
              exact .inl ⟨_, .turnedAway id link, _, rfl,
                .turnedAway found departs first waits present built taken patience⟩
          | true =>
              exact .inl ⟨_, .gaveUp id link, _, rfl,
                .gaveUp found departs first waits present built taken patience rfl⟩

/-- The departures of any due agents succeed, one after the other, or intervals are asked for
that cannot be counted to. -/
theorem Placed.exists_departures (placed : traffic.Placed pending)
    (equipped : traffic.population.Equipped table network)
    (mirrors : traffic.roads.Mirrors tickSecs network) (context : RouteContext)
    (distinct : due.Nodup) (listed : ∀ id ∈ due, id ∈ pending) :
    (∃ (outcomes : List (AgentId × DepartureOutcome)) (happenings : List Happening)
        (traffic' : Traffic α), outcomes.map (·.1) = due ∧
      happenings.map Happening.departure? = outcomes.map some ∧
      Steps table context traffic happenings traffic') ∨
    ∃ stopped, departAll table context traffic due = .error stopped ∧
      stopped.cause.Uncounted := by
  induction due generalizing traffic pending with
  | nil => exact .inl ⟨[], [], traffic, rfl, rfl, .nil⟩
  | cons id rest ih =>
      obtain ⟨fresh, distinct⟩ := List.nodup_cons.mp distinct
      obtain ⟨first, others⟩ := List.forall_mem_cons.mp listed
      obtain ⟨outcome, happening, middle, named, step⟩ | ⟨stopped, failed, uncounted⟩ :=
        placed.exists_departure equipped mirrors context first
      swap
      · refine .inr ⟨stopped, ?_, uncounted⟩
        rw [departAll, failed]
        rfl
      have own : happening.agent = id := by
        cases happening <;> cases named <;> rfl
      have later : ∀ other ∈ rest, other ∈ happening.settle pending := by
        intro other after
        have different : other ≠ happening.agent := by
          rw [own]
          intro same
          exact fresh (same ▸ after)
        rw [← List.count_pos_iff, Happening.count_settle_other different]
        exact List.count_pos_iff.mpr (others other after)
      obtain ⟨outcomes, happenings, traffic', due, kinds, steps⟩ | ⟨stopped, failed, uncounted⟩ :=
        ih (placed.step step) (equipped.of_unbegun step.unbegun) (step.mirrors mirrors)
          distinct later
      swap
      · refine .inr ⟨stopped, ?_, uncounted⟩
        rw [departAll, depart_eq_ok.mpr ⟨happening, named, step⟩, Attempt.bind_eq_error]
        exact .inr ⟨_, rfl, Attempt.bind_eq_error.mpr (.inl failed)⟩
      refine .inl ⟨(id, outcome) :: outcomes, happening :: happenings, traffic', ?_, ?_,
        .cons step steps⟩
      · rw [List.map_cons, due]
      · rw [List.map_cons, named, kinds]
        rfl

end Traffic

end MixedTraffic

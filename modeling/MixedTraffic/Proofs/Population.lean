import MixedTraffic.Population
import MixedTraffic.Proofs.Attempt

namespace MixedTraffic

namespace Trip

/-! The stages of a trip. It is pending until it enters the network and over once it has
an outcome. -/

def IsPending (trip : Trip) : Prop :=
  trip.outcome = none ∧ (trip.state = .inactive ∨ ∃ since, trip.state = .waiting since)

def IsOver (trip : Trip) : Prop := trip.state = .inactive ∧ trip.outcome.isSome

theorem isPending_new : ({} : Trip).IsPending := ⟨rfl, .inl rfl⟩

theorem IsPending.act?_wait {trip : Trip} (pending : trip.IsPending) (now : Tick) :
    ∃ since, trip.act? (.wait now) = some ⟨.waiting since, none⟩ := by
  obtain ⟨state, outcome⟩ := trip
  obtain ⟨rfl, rfl | ⟨since, rfl⟩⟩ := pending
  · exact ⟨now, rfl⟩
  · exact ⟨since, rfl⟩

theorem IsPending.act?_skip {trip : Trip} (pending : trip.IsPending) :
    trip.act? .skip = some ⟨.inactive, some .skipped⟩ := by
  obtain ⟨state, outcome⟩ := trip
  obtain ⟨rfl, rfl | ⟨since, rfl⟩⟩ := pending
  · rfl
  · rfl

theorem IsOver.act?_eq_none {trip : Trip} (ended : trip.IsOver) (action : TripAction) :
    trip.act? action = none := by
  obtain ⟨state, outcome⟩ := trip
  obtain ⟨rfl, set⟩ := ended
  obtain ⟨outcome, rfl⟩ := Option.isSome_iff_exists.mp set
  cases action <;> rfl

section Actions

variable {trip trip' : Trip} {action : TripAction}

theorem ne_new_of_act? (acts : trip.act? action = some trip') : trip' ≠ {} := by
  rintro rfl
  cases action <;> simp only [act?] at acts <;> split at acts <;> simp_all

theorem wait_of_waiting {since : Tick} (acts : trip.act? action = some trip')
    (waits : trip'.state = .waiting since) :
    ∃ now, action = .wait now ∧
      (trip.state = .waiting since ∨ trip = {} ∧ since = now) := by
  obtain ⟨state, outcome⟩ := trip
  cases action <;> grind [act?]

theorem waiting_of_act?_wait {now : Tick} (acts : trip.act? (.wait now) = some trip') :
    ∃ since, trip'.state = .waiting since := by
  obtain ⟨state, outcome⟩ := trip
  grind [act?]

theorem moving_of_act? {link : LinkId} {step : Nat} (acts : trip.act? action = some trip')
    (moves : trip'.state = .moving link step) :
    (action = .depart link ∧ step = 0 ∧ ∃ since, trip.state = .waiting since) ∨
      ∃ source before, action = .advance link ∧ step = before + 1 ∧
        trip.state = .moving source before := by
  obtain ⟨state, outcome⟩ := trip
  cases action <;> grind [act?]

end Actions

end Trip

namespace Population

theorem find_eq_ok {population : Population} {id : AgentId} {agent : Agent} :
    population.find id = .ok agent ↔ population.get? id = some agent := by
  simp [find]

theorem acting_eq_ok {population : Population} {id : AgentId} {action : TripAction}
    {member : Agent} :
    population.acting id action = .ok member ↔
      ∃ agent trip, population.get? id = some agent ∧
        agent.trip.act? action = some trip ∧ member = { agent with trip } := by
  unfold acting Agent.act
  simp only [Attempt.bind_eq_ok, find_eq_ok]
  refine exists_congr fun agent => ?_
  cases agent.trip.act? action <;> simp [eq_comm]

theorem get?_set {population : Population} {id : AgentId} {old : Agent}
    (present : population.get? id = some old) (member : Agent) (other : AgentId) :
    (population.set id member).get? other =
      if other = id then some member else population.get? other := by
  obtain ⟨index⟩ := id
  obtain ⟨position⟩ := other
  obtain ⟨bound, -⟩ := Array.getElem?_eq_some_iff.mp present
  by_cases same : position = index
  · subst same
    simp [get?, set, bound]
  · simp [get?, set, same, Ne.symm same]

@[simp] theorem get?_set_self {population : Population} {id : AgentId} {old : Agent}
    (present : population.get? id = some old) (member : Agent) :
    (population.set id member).get? id = some member := by
  simp [get?_set present]

@[simp] theorem set_set (population : Population) (id : AgentId) (first second : Agent) :
    (population.set id first).set id second = population.set id second := by
  simp [set]

theorem isSome_get? {population : Population} {id : AgentId} :
    (population.get? id).isSome ↔ id.index < population.size := by
  simp [get?, size]

theorem mem_keys_iff {population : Population} {id : AgentId} :
    id ∈ (List.range population.size).map Key.mk ↔ (population.get? id).isSome := by
  rw [isSome_get?]
  obtain ⟨index⟩ := id
  simp

@[simp] theorem size_set (population : Population) (id : AgentId) (member : Agent) :
    (population.set id member).size = population.size := by
  simp [size, set]

def Fresh (population : Population) : Prop :=
  ∀ ⦃id agent⦄, population.get? id = some agent → agent.id = id ∧ agent.trip = {}

theorem Fresh.map_id {population : Population} (fresh : population.Fresh) :
    population.agents.toList.map (·.id) = (List.range population.size).map Key.mk := by
  apply List.ext_getElem
  · simp [size]
  · intro index bound _
    simp only [List.length_map, Array.length_toList] at bound
    have found : population.get? ⟨index⟩ = some population.agents[index] := by
      simp [get?, bound]
    simpa using (fresh found).1

end Population

namespace PopulationDraft

/-- The drafts that are put together agent by agent. -/
inductive Drafted : PopulationDraft → Prop where
  | empty {seed : Nat} : Drafted { seed }
  | add {draft : PopulationDraft} (drafted : Drafted draft) (mode : ModeId)
      (departureSecs : Nat) (driver : Driver) :
      Drafted (draft.add mode departureSecs driver)

theorem Drafted.addJittered {draft : PopulationDraft} (drafted : draft.Drafted) (mode : ModeId)
    (departureSecs window : Nat) (driver : Driver) :
    (draft.addJittered mode departureSecs window driver).Drafted :=
  drafted.add mode _ driver

theorem Drafted.fresh {draft : PopulationDraft} (drafted : draft.Drafted) :
    Population.Fresh ⟨draft.agents⟩ := by
  induction drafted with
  | empty =>
      intro id agent found
      simp [Population.get?] at found
  | @add draft _ mode departureSecs driver ih =>
      intro id agent found
      simp only [Population.get?, PopulationDraft.add, Array.getElem?_push] at found
      split at found
      · rename_i last
        cases found
        exact ⟨by rw [← last], rfl⟩
      · exact ih found

variable {α : Type} [Quantity α] {draft : PopulationDraft} {table : ModeTable α}
  {population : Population}

theorem build_eq_ok :
    draft.build table = .ok population ↔
      (∀ agent ∈ draft.agents, checkAgent table agent = .ok ()) ∧
        population = ⟨draft.agents⟩ := by
  simp only [build, Attempt.bind_eq_ok, Attempt.pure_eq_ok]
  constructor
  · intro built
    obtain ⟨_, checked, rfl⟩ := built
    refine ⟨fun agent member => Attempt.forM_eq_ok.mp checked agent ?_, rfl⟩
    exact Array.mem_toList_iff.mpr member
  · intro both
    obtain ⟨checked, rfl⟩ := both
    refine ⟨(), Attempt.forM_eq_ok.mpr fun agent member => checked agent ?_, rfl⟩
    exact Array.mem_toList_iff.mp member

theorem contains_of_checkAgent {agent : Agent} (checked : checkAgent table agent = .ok ()) :
    table.contains agent.mode = true := by
  unfold checkAgent at checked
  split at checked
  · cases checked
  · rename_i listed
    simpa using listed

theorem Drafted.fresh_of_build (drafted : draft.Drafted)
    (built : draft.build table = .ok population) : population.Fresh := by
  obtain ⟨-, rfl⟩ := build_eq_ok.mp built
  exact drafted.fresh

end PopulationDraft

end MixedTraffic

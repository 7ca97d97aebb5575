import Mathlib.Computability.Language
import MixedTraffic.Proofs.Population

namespace MixedTraffic

/-! The language of trips. An agent takes exactly the actions that some whole trip goes on with,
and refuses any other without a trace. -/

open scoped Computability

namespace TripAction

/-- The words of a single action out of some. -/
def single (actions : Set TripAction) : Language TripAction :=
  {word | ∃ action ∈ actions, word = [action]}

def waits : Set TripAction := Set.range wait

def departs : Set TripAction := Set.range depart

def advances : Set TripAction := Set.range advance

/-- The actions of a trip on the road, after it has departed. -/
def riding : Language TripAction :=
  (single advances)∗ * (single {abort} + single {arrive} * single {complete})

/-- The actions of a trip that waits already. -/
def boarding : Language TripAction :=
  (single waits)∗ * (single {skip, abort} + single departs * riding)

/-- The actions of whole trips. -/
def trips : Language TripAction := single {skip} + single waits * boarding

/-- That some actions are the beginning of a whole trip. -/
def BeginTrip (actions : List TripAction) : Prop := ∃ rest, actions ++ rest ∈ trips

variable {action : TripAction} {actions : Set TripAction} {word : List TripAction}
  {language : Language TripAction}

@[simp] theorem mem_single_cons :
    action :: word ∈ single actions ↔ action ∈ actions ∧ word = [] := by
  constructor
  · rintro ⟨other, member, same⟩
    cases same
    exact ⟨member, rfl⟩
  · rintro ⟨member, rfl⟩
    exact ⟨action, member, rfl⟩

@[simp] theorem mem_single_mul_cons :
    action :: word ∈ single actions * language ↔ action ∈ actions ∧ word ∈ language := by
  rw [Language.mem_mul]
  constructor
  · rintro ⟨_, ⟨other, member, rfl⟩, rest, mem, same⟩
    cases same
    exact ⟨member, mem⟩
  · rintro ⟨member, mem⟩
    exact ⟨[action], ⟨action, member, rfl⟩, word, mem, rfl⟩

/-- A word over a repetition either repeats once more or has come to its end. -/
@[simp] theorem mem_kstar_single_mul_cons :
    action :: word ∈ (single actions)∗ * language ↔
      (action ∈ actions ∧ word ∈ (single actions)∗ * language) ∨ action :: word ∈ language := by
  have unrolled : (single actions)∗ * language =
      language + single actions * ((single actions)∗ * language) := by
    rw [← mul_assoc]
    nth_rewrite 1 [← Language.one_add_self_mul_kstar_eq_kstar (single actions)]
    rw [add_mul, one_mul]
  nth_rewrite 1 [unrolled]
  rw [Language.mem_add, mem_single_mul_cons, or_comm]

@[simp] theorem nil_notMem_single_mul : [] ∉ single actions * language := by
  rw [Language.mem_mul]
  rintro ⟨_, ⟨action, -, rfl⟩, rest, -, same⟩
  cases same

@[simp] theorem nil_mem_kstar_mul {other : Language TripAction} :
    [] ∈ other∗ * language ↔ [] ∈ language := by
  rw [Language.mem_mul]
  constructor
  · rintro ⟨first, -, rest, ends, same⟩
    obtain ⟨-, rfl⟩ := List.append_eq_nil_iff.mp same
    exact ends
  · exact fun ends => ⟨[], Language.nil_mem_kstar _, [], ends, rfl⟩

theorem mem_riding_cons :
    action :: word ∈ riding ↔ (action ∈ advances ∧ word ∈ riding) ∨
      (action = abort ∧ word = []) ∨ (action = arrive ∧ word ∈ single {complete}) := by
  rw [riding, mem_kstar_single_mul_cons, Language.mem_add, mem_single_cons, mem_single_mul_cons]
  rfl

theorem mem_boarding_cons :
    action :: word ∈ boarding ↔ (action ∈ waits ∧ word ∈ boarding) ∨
      ((action = skip ∨ action = abort) ∧ word = []) ∨ (action ∈ departs ∧ word ∈ riding) := by
  rw [boarding, mem_kstar_single_mul_cons, Language.mem_add, mem_single_cons, mem_single_mul_cons]
  rfl

theorem mem_trips_cons :
    action :: word ∈ trips ↔ (action = skip ∧ word = []) ∨ (action ∈ waits ∧ word ∈ boarding) := by
  rw [trips, Language.mem_add, mem_single_cons, mem_single_mul_cons]
  rfl

end TripAction

namespace Trip

open TripAction

def remaining : Trip → Language TripAction
  | ⟨.inactive, none⟩ => trips
  | ⟨.inactive, some _⟩ => 1
  | ⟨.waiting _, _⟩ => boarding
  | ⟨.moving _ _, _⟩ => riding
  | ⟨.arriving _, _⟩ => single {complete}

/-- That only an inactive trip has an outcome. -/
def Consistent (trip : Trip) : Prop := trip.outcome.isSome → trip.state = .inactive

variable {trip trip' : Trip} {action : TripAction} {word : List TripAction}

/-- A trip takes an action exactly where it can go on with it, and then goes on with the rest. -/
theorem mem_remaining_cons (consistent : trip.Consistent) :
    action :: word ∈ trip.remaining ↔
      ∃ next, trip.act? action = some next ∧ word ∈ next.remaining := by
  obtain ⟨state, outcome⟩ := trip
  cases outcome with
  | some outcome =>
      obtain rfl : state = .inactive := consistent rfl
      cases action <;> simp [remaining, act?, Language.mem_one]
  | none =>
      cases state with
      | inactive =>
          rw [remaining, mem_trips_cons]
          cases action <;> simp [remaining, act?, Language.mem_one, waits]
      | waiting since =>
          rw [remaining, mem_boarding_cons]
          cases action <;> simp [remaining, act?, Language.mem_one, waits, departs]
      | moving link step =>
          rw [remaining, mem_riding_cons]
          cases action <;> simp [remaining, act?, Language.mem_one, advances]
      | arriving link =>
          rw [remaining, mem_single_cons]
          cases action <;> simp [remaining, act?, Language.mem_one]

theorem nil_mem_remaining (consistent : trip.Consistent) :
    [] ∈ trip.remaining ↔ trip.outcome.isSome := by
  have single (actions : Set TripAction) : [] ∉ single actions := by
    rintro ⟨action, -, same⟩
    cases same
  obtain ⟨state, outcome⟩ := trip
  cases outcome with
  | some outcome =>
      obtain rfl : state = .inactive := consistent rfl
      simp [remaining, Language.mem_one]
  | none =>
      cases state <;> simp [remaining, trips, boarding, riding, Language.mem_add, single,
        -add_eq_sup]

theorem exists_mem_remaining (trip : Trip) : ∃ word, word ∈ trip.remaining := by
  obtain ⟨state, outcome⟩ := trip
  cases state with
  | inactive =>
      cases outcome with
      | none => exact ⟨[skip], .inl ⟨skip, rfl, rfl⟩⟩
      | some => exact ⟨[], rfl⟩
  | waiting => exact ⟨[skip], mem_boarding_cons.mpr (.inr (.inl ⟨.inl rfl, rfl⟩))⟩
  | moving => exact ⟨[abort], mem_riding_cons.mpr (.inr (.inl ⟨rfl, rfl⟩))⟩
  | arriving => exact ⟨[complete], complete, rfl, rfl⟩

theorem Consistent.act? (consistent : trip.Consistent) (acts : trip.act? action = some trip') :
    trip'.Consistent := by
  obtain ⟨state, outcome⟩ := trip
  cases outcome with
  | some outcome =>
      obtain rfl : state = .inactive := consistent rfl
      cases action <;> simp [Trip.act?] at acts
  | none =>
      cases state <;> cases action <;> simp [Trip.act?] at acts <;> subst acts <;>
        simp [Consistent]

end Trip

namespace TripAction

def isWait : TripAction → Bool
  | wait _ => true
  | _ => false

def isAdvance : TripAction → Bool
  | advance _ => true
  | _ => false

/-- The link that an action leads onto. -/
def link? : TripAction → Option LinkId
  | depart link | advance link => some link
  | _ => none

end TripAction

/-- An agent with the actions that it has taken. -/
structure Diary where
  agent : Agent
  taken : List TripAction := []

namespace Diary

variable {diary : Diary} {calls : List TripAction} {action : TripAction} {trip : Trip}

/-- The diary after an agent has been called upon to take an action. -/
def call (diary : Diary) (action : TripAction) : Diary :=
  match diary.agent.act action with
  | .ok agent => ⟨agent, diary.taken ++ [action]⟩
  | .error _ => diary

/-- The diary of a new agent after some calls. -/
def ofCalls (id : AgentId) (mode : ModeId) (departureSecs : Nat) (driver : Driver)
    (calls : List TripAction) : Diary :=
  calls.foldl call { agent := { id, mode, departureSecs, driver } }

theorem call_of_some (acts : diary.agent.trip.act? action = some trip) :
    diary.agent.act action = .ok { diary.agent with trip } ∧
      diary.call action = ⟨{ diary.agent with trip }, diary.taken ++ [action]⟩ := by
  simp [call, Agent.act, acts]

theorem call_of_none (refuses : diary.agent.trip.act? action = none) :
    diary.agent.act action =
        .error (.invalidTransition diary.agent.id diary.agent.trip.state action.target) ∧
      diary.call action = diary := by
  simp [call, Agent.act, refuses]

/-- What a diary tells of its agent after some calls. -/
structure Tells (diary : Diary) (calls : List TripAction) : Prop where
  consistent : diary.agent.trip.Consistent
  remaining : ∀ rest, diary.taken ++ rest ∈ TripAction.trips ↔ rest ∈ diary.agent.trip.remaining
  new : diary.agent.trip = {} → diary.taken = [] ∧ calls.find? (·.isWait) = none
  waiting : ∀ since, diary.agent.trip.state = .waiting since →
    diary.taken.head? = some (.wait since) ∧ diary.taken.countP (·.isAdvance) = 0 ∧
    calls.find? (·.isWait) = some (.wait since)
  moving : ∀ link step, diary.agent.trip.state = .moving link step →
    step = diary.taken.countP (·.isAdvance) ∧
    (diary.taken.filterMap (·.link?)).getLast? = some link

namespace Tells

theorem refused (tells : diary.Tells calls) (refuses : diary.agent.trip.act? action = none) :
    diary.Tells (calls ++ [action]) where
  consistent := tells.consistent
  remaining := tells.remaining
  new fresh := by
    obtain ⟨nothing, unasked⟩ := tells.new fresh
    rw [fresh] at refuses
    refine ⟨nothing, ?_⟩
    rw [List.find?_append, unasked]
    cases action with
    | wait | skip => cases refuses
    | _ => rfl
  waiting since state := by
    obtain ⟨first, still, asked⟩ := tells.waiting since state
    exact ⟨first, still, by simp [asked]⟩
  moving := tells.moving

theorem taken (tells : diary.Tells calls) (acts : diary.agent.trip.act? action = some trip) :
    Tells ⟨{ diary.agent with trip }, diary.taken ++ [action]⟩ (calls ++ [action]) where
  consistent := tells.consistent.act? acts
  remaining rest := by
    rw [List.append_assoc, tells.remaining, List.singleton_append,
      Trip.mem_remaining_cons tells.consistent]
    simp [acts]
  new fresh := absurd fresh (Trip.ne_new_of_act? acts)
  waiting since state := by
    -- Waiting again is taken as well, but it is not the first time.
    obtain ⟨now, rfl, before | ⟨fresh, rfl⟩⟩ := Trip.wait_of_waiting acts state
    · obtain ⟨first, still, asked⟩ := tells.waiting since before
      refine ⟨by simp [first], ?_, by simp [asked]⟩
      rw [List.countP_append, still]
      rfl
    · obtain ⟨nothing, unasked⟩ := tells.new fresh
      rw [List.find?_append, unasked, nothing]
      exact ⟨rfl, rfl, rfl⟩
  moving link step state := by
    obtain ⟨rfl, rfl, since, before⟩ | ⟨source, behind, rfl, rfl, before⟩ :=
      Trip.moving_of_act? acts state
    · obtain ⟨-, still, -⟩ := tells.waiting since before
      rw [List.countP_append, List.filterMap_append, List.getLast?_append, still]
      exact ⟨rfl, rfl⟩
    · obtain ⟨rfl, -⟩ := tells.moving source behind before
      rw [List.countP_append, List.filterMap_append, List.getLast?_append]
      exact ⟨rfl, rfl⟩

theorem call (tells : diary.Tells calls) (action : TripAction) :
    (diary.call action).Tells (calls ++ [action]) := by
  cases acts : diary.agent.trip.act? action with
  | none =>
      rw [(call_of_none acts).2]
      exact tells.refused acts
  | some trip =>
      rw [(call_of_some acts).2]
      exact tells.taken acts

theorem beginTrip (tells : diary.Tells calls) : TripAction.BeginTrip diary.taken := by
  obtain ⟨rest, ends⟩ := diary.agent.trip.exists_mem_remaining
  exact ⟨rest, (tells.remaining rest).mpr ends⟩

theorem beginTrip_append_iff (tells : diary.Tells calls) (action : TripAction) :
    TripAction.BeginTrip (diary.taken ++ [action]) ↔
      ∃ trip, diary.agent.trip.act? action = some trip := by
  simp only [TripAction.BeginTrip, List.append_assoc, List.singleton_append, tells.remaining,
    Trip.mem_remaining_cons tells.consistent]
  constructor
  · rintro ⟨rest, trip, acts, -⟩
    exact ⟨trip, acts⟩
  · rintro ⟨trip, acts⟩
    obtain ⟨rest, ends⟩ := trip.exists_mem_remaining
    exact ⟨rest, trip, acts, ends⟩

theorem foldl (tells : diary.Tells calls) (later : List TripAction) :
    (later.foldl Diary.call diary).Tells (calls ++ later) := by
  induction later generalizing diary calls with
  | nil => simpa using tells
  | cons action rest ih => simpa using ih (tells.call action)

end Tells

theorem foldl_call_of_isOver (ended : diary.agent.trip.IsOver) (later : List TripAction) :
    later.foldl call diary = diary := by
  induction later with
  | nil => rfl
  | cons action rest ih => rw [List.foldl_cons, (call_of_none (ended.act?_eq_none action)).2, ih]

theorem agent_foldl_call (diary : Diary) (calls : List TripAction) :
    (calls.foldl call diary).agent =
      { diary.agent with trip := (calls.foldl call diary).agent.trip } := by
  induction calls generalizing diary with
  | nil => rfl
  | cons action rest ih =>
      rw [List.foldl_cons, ih]
      cases acts : diary.agent.trip.act? action with
      | none => rw [(call_of_none acts).2]
      | some trip => rw [(call_of_some acts).2]

theorem tells_ofCalls (id : AgentId) (mode : ModeId) (departureSecs : Nat) (driver : Driver)
    (calls : List TripAction) : (ofCalls id mode departureSecs driver calls).Tells calls := by
  have begun : Tells { agent := { id, mode, departureSecs, driver } } [] :=
    ⟨nofun, fun _ => .rfl, fun _ => ⟨rfl, rfl⟩, nofun, nofun⟩
  exact begun.foldl calls

/-- Whatever a new agent is called upon for, the actions that it takes are the beginning of a
whole trip. It takes any that the trip can go on with, refuses all others and is then left as it
was. Its outcome is set by the whole trip and is final. While it waits or moves, its state tells of
the actions taken. -/
theorem ofCalls_takes_trips (id : AgentId) (mode : ModeId) (departureSecs : Nat) (driver : Driver)
    (calls : List TripAction) :
    let diary := ofCalls id mode departureSecs driver calls
    TripAction.BeginTrip diary.taken ∧
    diary.agent = { id, mode, departureSecs, driver, trip := diary.agent.trip } ∧
    (∀ action, TripAction.BeginTrip (diary.taken ++ [action]) →
      ∃ agent, diary.agent.act action = .ok agent ∧
        ofCalls id mode departureSecs driver (calls ++ [action]) =
          ⟨agent, diary.taken ++ [action]⟩) ∧
    (∀ action, ¬TripAction.BeginTrip (diary.taken ++ [action]) →
      diary.agent.act action =
          .error (.invalidTransition id diary.agent.trip.state action.target) ∧
        ofCalls id mode departureSecs driver (calls ++ [action]) = diary) ∧
    (diary.agent.trip.outcome.isSome ↔ diary.taken ∈ TripAction.trips) ∧
    (diary.agent.trip.outcome.isSome → diary.agent.trip.state = .inactive ∧
      ∀ later, ofCalls id mode departureSecs driver (calls ++ later) = diary) ∧
    (∀ since, diary.agent.trip.state = .waiting since →
      diary.taken.head? = some (.wait since) ∧ calls.find? (·.isWait) = some (.wait since)) ∧
    ∀ link step, diary.agent.trip.state = .moving link step →
      step = diary.taken.countP (·.isAdvance) ∧
      (diary.taken.filterMap (·.link?)).getLast? = some link := by
  intro diary
  have tells : diary.Tells calls := tells_ofCalls ..
  have agent : diary.agent = { id, mode, departureSecs, driver, trip := diary.agent.trip } :=
    agent_foldl_call ..
  have next (later : List TripAction) :
      ofCalls id mode departureSecs driver (calls ++ later) = later.foldl call diary :=
    List.foldl_append
  refine ⟨tells.beginTrip, agent, fun action goes => ?_, fun action stops => ?_, ?_,
    fun set => ?_, fun since state => ?_, tells.moving⟩
  · obtain ⟨trip, acts⟩ := (tells.beginTrip_append_iff action).mp goes
    rw [next]
    exact ⟨_, call_of_some acts⟩
  · rw [tells.beginTrip_append_iff, not_exists] at stops
    have refuses := call_of_none (Option.eq_none_iff_forall_ne_some.mpr stops)
    rw [next]
    rwa [congrArg Agent.id agent] at refuses
  · have whole := tells.remaining []
    rw [List.append_nil] at whole
    exact (Trip.nil_mem_remaining tells.consistent).symm.trans whole.symm
  · have state := tells.consistent set
    exact ⟨state, fun later => (next later).trans (foldl_call_of_isOver ⟨state, set⟩ later)⟩
  · obtain ⟨first, -, asked⟩ := tells.waiting since state
    exact ⟨first, asked⟩

example : (ofCalls ⟨0⟩ ⟨0⟩ 0 (.fixed [⟨1⟩])
    [.depart ⟨1⟩, .wait 3, .abort, .wait 4, .complete]).taken = [.wait 3, .abort] := rfl

end Diary

end MixedTraffic

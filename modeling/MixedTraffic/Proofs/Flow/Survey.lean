import Mathlib.Algebra.BigOperators.Intervals
import Mathlib.Algebra.Order.BigOperators.Group.Finset
import MixedTraffic.Flow.Tracker
import MixedTraffic.Proofs.Flow.Stays
import MixedTraffic.Proofs.Road.Storage

namespace MixedTraffic

/-! What a history tells of density, flow and speed, in exact amounts. An event is known by its
position in the history, and a stretch of the history by its first position and the one after its
last. -/

/-- The roads, the vehicles and the settings of a measurement. -/
structure Survey where
  network : Network Rat
  table : ModeTable Rat
  modes : Array ModeId
  config : TrackerConfig Rat
  tickSecs : Nat

namespace Survey

variable (survey : Survey) (who : ModeId → Bool) (history : List Event)

/-- Whether an agent is of some modes. -/
def covers (agent : AgentId) : Bool := survey.modes[agent.index]?.any who

/-- The passenger-car units of the vehicle of an agent. -/
def size (agent : AgentId) : Rat :=
  (survey.modes[agent.index]?.bind survey.table.get?).elim 0 (·.pcu)

def linkLength (link : LinkId) : Rat := (survey.network.link? link).elim 0 (·.length)

/-- The passenger-car units that enter the reference link with an event. -/
def enteredAt (position : Nat) : Rat :=
  history[position]?.elim 0 fun event =>
    if event.kind = .linkEntered ∧ event.link = survey.config.referenceLink ∧
      survey.covers who event.agent
    then survey.size event.agent else 0

/-- The stay that an agent completes with an event, by leaving its link. -/
def completedAt (position : Nat) : Option (Event × Stay) := do
  let event ← history[position]?
  guard (event.kind = .linkLeft ∧ survey.covers who event.agent)
  let stay ← stayOf (history.take position) event.agent
  return (event, stay)

/-- The metres of a traversal that is completed with an event. -/
def distanceAt (position : Nat) : Rat :=
  (survey.completedAt who history position).elim 0 fun (event, _) => survey.linkLength event.link

/-- The seconds that it took. -/
def durationAt (position : Nat) : Rat :=
  (survey.completedAt who history position).elim 0 fun (event, stay) =>
    ((event.time - stay.since : Nat) : Rat) * survey.tickSecs

/-- What a stretch of the history adds up to. -/
def binTotals (first last : Nat) : BinTotals Rat where
  enteredPcu := ∑ position ∈ Finset.Ico first last, survey.enteredAt who history position
  distance := ∑ position ∈ Finset.Ico first last, survey.distanceAt who history position
  duration := ∑ position ∈ Finset.Ico first last, survey.durationAt who history position

/-- Those who are on a link after a history. -/
def present : Finset Nat :=
  (Finset.range survey.modes.size).filter fun index =>
    (stayOf history ⟨index⟩).isSome ∧ survey.covers who ⟨index⟩

def presentPcu : Rat := ∑ index ∈ survey.present who history, survey.size ⟨index⟩

/-- That a sample tells of a history up to a position. Flow and speed are those of a number of bins,
which begin with another position, and the speed of the sample before goes on if there are no
traversals in them. -/
structure Measures (first last bins : Nat) (previous sample : FlowSample Rat) : Prop where
  agents : sample.agents = (survey.present who (history.take last)).card
  density : sample.density =
    survey.presentPcu who (history.take last) / (survey.config.metres survey.network / 1000)
  flow : sample.flow = 3600 * (survey.binTotals who history first last).enteredPcu /
    (bins * survey.config.binTicks * survey.tickSecs)
  meanSpeed : (∃ position ∈ Finset.Ico first last,
      (survey.completedAt who history position).isSome) →
    sample.meanSpeed = (survey.binTotals who history first last).distance /
      (survey.binTotals who history first last).duration
  carried : (∀ position ∈ Finset.Ico first last,
      survey.completedAt who history position = none) →
    sample.meanSpeed = previous.meanSpeed

variable {survey who history} {event : Event} {mode : ModeId} {type : VehicleType Rat}
  {position first last : Nat}

theorem completedAt_eq_some {stay : Stay} :
    survey.completedAt who history position = some (event, stay) ↔
      history[position]? = some event ∧ event.kind = .linkLeft ∧
        survey.covers who event.agent = true ∧
        stayOf (history.take position) event.agent = some stay := by
  unfold completedAt
  cases history[position]? with
  | none => simp
  | some other =>
      by_cases left : other.kind = .linkLeft ∧ survey.covers who other.agent
      · cases here : stayOf (history.take position) other.agent <;> simp [left, here] <;> grind
      · simp [left]
        grind

/-- That an event is the next one of a history, of a known agent on a known link. -/
structure Next (survey : Survey) (history : List Event) (position : Nat) (event : Event)
    (mode : ModeId) (type : VehicleType Rat) : Prop where
  found : history[position]? = some event
  own : survey.modes[event.agent.index]? = some mode
  listed : survey.table.get? mode = some type
  link : event.link.index < survey.network.links.size
  fits : event.Fits (stayOf (history.take position) event.agent)
  lasts : event.kind = .linkLeft →
    ∀ stay ∈ stayOf (history.take position) event.agent, stay.since < event.time

namespace Next

variable (next : survey.Next history position event mode type)
include next

theorem covers (who : ModeId → Bool) : survey.covers who event.agent = who mode := by
  rw [Survey.covers, next.own, Option.any_some]

theorem size : survey.size event.agent = type.pcu := by
  rw [Survey.size, next.own, Option.bind_some, next.listed]
  rfl

theorem enteredAt : survey.enteredAt who history position =
    if event.kind = .linkEntered ∧ event.link = survey.config.referenceLink ∧ who mode
    then type.pcu else 0 := by
  rw [Survey.enteredAt, next.found, ← next.size, ← next.covers who]
  rfl

theorem completedAt : survey.completedAt who history position =
    if event.kind = .linkLeft ∧ who mode
    then (stayOf (history.take position) event.agent).map (event, ·) else none := by
  rw [Survey.completedAt, next.found, ← next.covers who]
  by_cases left : event.kind = .linkLeft ∧ survey.covers who event.agent
  · rw [if_pos left]
    cases here : stayOf (history.take position) event.agent <;> simp [left, here]
  · rw [if_neg left]
    simp [left]

theorem take_succ : history.take (position + 1) = history.take position ++ [event] := by
  rw [List.take_add_one, next.found, Option.toList_some]

theorem length_take : (history.take position).length = position :=
  List.length_take_of_le (List.getElem?_eq_some_iff.mp next.found).1.le

theorem stayOf_eq (agent : AgentId) : stayOf (history.take (position + 1)) agent =
    if agent = event.agent then event.stay position (stayOf (history.take position) agent)
    else stayOf (history.take position) agent := by
  rw [next.take_succ, stayOf_append, next.length_take]

/-- The agent of the event is present from then on, or not, and all others are as before. -/
theorem present : survey.present who (history.take (position + 1)) =
    if who mode then
      if (event.stay position (stayOf (history.take position) event.agent)).isSome
      then insert event.agent.index (survey.present who (history.take position))
      else (survey.present who (history.take position)).erase event.agent.index
    else survey.present who (history.take position) := by
  have known : event.agent.index < survey.modes.size :=
    (Array.getElem?_eq_some_iff.mp next.own).1
  have own := next.stayOf_eq event.agent
  rw [if_pos rfl] at own
  ext index
  by_cases same : index = event.agent.index
  · subst same
    have among : event.agent.index ∈ survey.present who (history.take (position + 1)) ↔
        (event.stay position (stayOf (history.take position) event.agent)).isSome ∧ who mode := by
      rw [Survey.present, Finset.mem_filter, Finset.mem_range, and_iff_right known, own,
        next.covers]
    rw [among]
    have before : event.agent.index ∈ survey.present who (history.take position) → who mode := by
      rw [Survey.present, Finset.mem_filter, next.covers]
      exact fun here => here.2.2
    grind
  · have other : (⟨index⟩ : AgentId) ≠ event.agent := fun equal => same (congrArg Key.index equal)
    have kept : index ∈ survey.present who (history.take (position + 1)) ↔
        index ∈ survey.present who (history.take position) := by
      rw [Survey.present, Survey.present, Finset.mem_filter, Finset.mem_filter, next.stayOf_eq,
        if_neg other]
    rw [kept]
    grind

end Next

theorem binTotals_succ (bound : first ≤ position) :
    survey.binTotals who history first (position + 1) =
      { enteredPcu := (survey.binTotals who history first position).enteredPcu +
          survey.enteredAt who history position
        distance := (survey.binTotals who history first position).distance +
          survey.distanceAt who history position
        duration := (survey.binTotals who history first position).duration +
          survey.durationAt who history position } := by
  simp only [binTotals, Finset.sum_Ico_succ_top bound]

theorem binTotals_self (survey : Survey) (who : ModeId → Bool) (history : List Event)
    (position : Nat) : survey.binTotals who history position position = .empty := by
  simp only [binTotals, Finset.Ico_self, Finset.sum_empty]
  rfl

theorem sum_stretches (amount : Nat → Rat) {starts : Nat → Nat}
    (ascends : ∀ bin, starts bin ≤ starts (bin + 1)) {first last : Nat} (bound : first ≤ last) :
    (((List.range last).drop first).map fun bin =>
      ∑ position ∈ Finset.Ico (starts bin) (starts (bin + 1)), amount position).sum =
      ∑ position ∈ Finset.Ico (starts first) (starts last), amount position := by
  induction last, bound using Nat.le_induction with
  | base => rw [List.drop_of_length_le (by simp), Finset.Ico_self]; rfl
  | succ last bound ih =>
      rw [List.range_succ, List.drop_append_of_le_length (by simpa), List.map_append,
        List.sum_append, ih, List.map_singleton, List.sum_singleton]
      exact Finset.sum_Ico_consecutive _ (monotone_nat_of_le_succ ascends bound) (ascends last)

end Survey

end MixedTraffic

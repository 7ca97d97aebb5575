import MixedTraffic.Event.Basic
import Mathlib.Data.List.Induction

namespace MixedTraffic

/-! Where the agents of a history are. A stay on a link lasts from the event by which an agent
enters the link to that by which it leaves it or is stuck on it. -/

/-- A stay of an agent on a link. -/
structure Stay where
  /-- The position in the history of the event by which the agent entered. -/
  entry : Nat
  link : LinkId
  since : Tick
deriving DecidableEq

namespace Event

variable {event : Event} {position : Nat} {stay? : Option Stay}

/-- The stay of an agent after one more of its events, which has a position in the history. -/
def stay (position : Nat) (stay? : Option Stay) (event : Event) : Option Stay :=
  match event.kind with
  | .linkEntered => some ⟨position, event.link, event.time⟩
  | .linkLeft | .stuck => none
  | .departed | .arrived => stay?

/-- That an agent whose stay is known can have an event. It enters a link only if it is on none,
and leaves the link that it is on. If it is on a link, then that is where it is stuck. -/
def Fits (event : Event) (stay? : Option Stay) : Prop :=
  match event.kind with
  | .linkEntered => stay? = none
  | .linkLeft => stay?.map (·.link) = some event.link
  | .stuck => ∀ stay ∈ stay?, stay.link = event.link
  | .departed | .arrived => True

instance (event : Event) (stay? : Option Stay) : Decidable (event.Fits stay?) := by
  unfold Fits
  cases event.kind <;> infer_instance

theorem Fits.of_entered (fits : event.Fits stay?) (entered : event.kind = .linkEntered) :
    stay? = none := by
  rwa [Fits, entered] at fits

theorem Fits.of_left (fits : event.Fits stay?) (left : event.kind = .linkLeft) :
    ∃ stay, stay? = some stay ∧ stay.link = event.link := by
  rw [Fits, left] at fits
  exact Option.map_eq_some_iff.mp fits

/-- That an event says nothing of where its agent is. -/
def Idle (event : Event) : Prop := event.kind = .departed ∨ event.kind = .arrived

theorem Idle.stay (idle : event.Idle) (position : Nat) (stay? : Option Stay) :
    event.stay position stay? = stay? := by
  unfold Event.stay
  obtain departed | arrived := idle
  · rw [departed]
  · rw [arrived]

theorem Fits.link_eq {stay : Stay} (fits : event.Fits (some stay)) (telling : ¬event.Idle) :
    stay.link = event.link := by
  unfold Fits at fits
  cases kind : event.kind with
  | linkEntered => simp [kind] at fits
  | linkLeft | stuck => simpa [kind] using fits
  | departed => exact absurd (.inl kind) telling
  | arrived => exact absurd (.inr kind) telling

theorem link_of_stay {stay : Stay} (telling : ¬event.Idle)
    (stays : event.stay position stay? = some stay) : stay.link = event.link := by
  unfold Event.stay at stays
  cases kind : event.kind with
  | linkEntered =>
      rw [kind] at stays
      cases stays
      rfl
  | linkLeft | stuck =>
      rw [kind] at stays
      cases stays
  | departed => exact absurd (.inl kind) telling
  | arrived => exact absurd (.inr kind) telling

end Event

/-- The stay of an agent after the events of a history, if it is on a link. -/
def stayOf (events : List Event) (agent : AgentId) : Option Stay :=
  events.zipIdx.foldl
    (fun stay? entry => if agent = entry.1.agent then entry.1.stay entry.2 stay? else stay?) none

section Stay

variable {events : List Event} {event : Event} {agent : AgentId} {stay : Stay}

theorem stayOf_nil (agent : AgentId) : stayOf [] agent = none := rfl

theorem stayOf_append (events : List Event) (event : Event) (agent : AgentId) :
    stayOf (events ++ [event]) agent =
      if agent = event.agent then event.stay events.length (stayOf events agent)
      else stayOf events agent := by
  rw [stayOf, List.zipIdx_append, List.foldl_append]
  simp only [List.zipIdx_singleton, List.foldl_cons, List.foldl_nil, Nat.zero_add]
  rfl

theorem stayOf_append_of_ne (other : agent ≠ event.agent) :
    stayOf (events ++ [event]) agent = stayOf events agent := by
  rw [stayOf_append, if_neg other]

theorem stayOf_append_agent (events : List Event) (event : Event) :
    stayOf (events ++ [event]) event.agent =
      event.stay events.length (stayOf events event.agent) := by
  rw [stayOf_append, if_pos rfl]

theorem stayOf_append_of_idle (events : List Event) (idle : event.Idle) :
    stayOf (events ++ [event]) = stayOf events := by
  funext agent
  rw [stayOf_append, idle.stay]
  split
  next own => rw [own]
  next => rfl

theorem stayOf_eq_some :
    stayOf events agent = some stay ↔ ∃ before event after, events = before ++ event :: after ∧
      event.kind = .linkEntered ∧ event.agent = agent ∧
      stay = ⟨before.length, event.link, event.time⟩ ∧
      ∀ later ∈ after, later.agent = agent → later.Idle := by
  induction events using List.reverseRecOn generalizing stay with
  | nil => simp [stayOf_nil]
  | append_singleton events last ih =>
      rw [stayOf_append]
      constructor
      · intro stays
        by_cases begins : agent = last.agent ∧ last.kind = .linkEntered
        · obtain ⟨rfl, entered⟩ := begins
          rw [if_pos rfl, Event.stay, entered] at stays
          exact ⟨events, last, [], rfl, entered, rfl, (Option.some.inj stays).symm,
            List.forall_mem_nil _⟩
        · have quiet (own : last.agent = agent) : last.Idle := by
            rw [if_pos own.symm, Event.stay] at stays
            cases kind : last.kind with
            | linkEntered => exact absurd ⟨own.symm, kind⟩ begins
            | linkLeft | stuck =>
                rw [kind] at stays
                cases stays
            | departed => exact .inl kind
            | arrived => exact .inr kind
          have earlier : stayOf events agent = some stay := by
            split at stays
            next own => rwa [(quiet own.symm).stay] at stays
            next => exact stays
          obtain ⟨before, event, after, rfl, entered, same, began, calm⟩ := ih.mp earlier
          refine ⟨before, event, after ++ [last], by simp, entered, same, began, ?_⟩
          exact List.forall_mem_append.mpr ⟨calm, List.forall_mem_singleton.mpr quiet⟩
      · rintro ⟨before, event, after, parts, entered, rfl, rfl, quiet⟩
        cases after using List.reverseRecOn with
        | nil =>
            obtain ⟨rfl, same⟩ := List.append_inj' parts rfl
            cases List.singleton_inj.mp same
            rw [if_pos rfl, Event.stay, entered]
        | append_singleton after other =>
            rw [← List.cons_append, ← List.append_assoc] at parts
            obtain ⟨rfl, same⟩ := List.append_inj' parts rfl
            cases List.singleton_inj.mp same
            obtain ⟨quiet, now⟩ := List.forall_mem_append.mp quiet
            have stays := ih.mpr ⟨before, event, after, rfl, entered, rfl, rfl, quiet⟩
            split
            next own => rw [(List.forall_mem_singleton.mp now own.symm).stay, stays]
            next => exact stays

theorem stayOf_entry_lt (stays : stayOf events agent = some stay) :
    stay.entry < events.length := by
  obtain ⟨before, event, after, rfl, -, -, rfl, -⟩ := stayOf_eq_some.mp stays
  simp

end Stay

/-- That the stays of each agent follow each other: every event fits what came before it. -/
def Coherent (events : List Event) : Prop :=
  ∀ position (bound : position < events.length),
    events[position].Fits (stayOf (events.take position) events[position].agent)

instance (events : List Event) : Decidable (Coherent events) :=
  inferInstanceAs (Decidable (∀ position (_ : position < events.length), _))

/-- That each vehicle takes at least an interval to leave a link that it enters. -/
def LeavesLater (history : List Event) : Prop :=
  ∀ position (bound : position < history.length), history[position].kind = .linkLeft →
    ∀ stay ∈ stayOf (history.take position) history[position].agent,
      stay.since < history[position].time

instance (history : List Event) : Decidable (LeavesLater history) :=
  inferInstanceAs (Decidable (∀ position (_ : position < history.length), _))

namespace Coherent

variable {events : List Event} {event : Event}

theorem append_iff :
    Coherent (events ++ [event]) ↔
      Coherent events ∧ event.Fits (stayOf events event.agent) := by
  constructor
  · intro coherent
    refine ⟨fun position bound => ?_, ?_⟩
    · have fits := coherent position (by simp; omega)
      rwa [List.getElem_append_left bound,
        List.take_append_of_le_length (Nat.le_of_lt bound)] at fits
    · simpa using coherent events.length (by simp)
  · rintro ⟨coherent, last⟩ position bound
    obtain earlier | rfl := Nat.lt_or_eq_of_le (Nat.le_of_lt_succ (by simpa using bound))
    · rw [List.getElem_append_left earlier, List.take_append_of_le_length (Nat.le_of_lt earlier)]
      exact coherent position earlier
    · simpa using last

end Coherent

end MixedTraffic

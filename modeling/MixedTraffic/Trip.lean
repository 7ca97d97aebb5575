import MixedTraffic.Clock
import MixedTraffic.Key

namespace MixedTraffic

/-! The life of one trip: it waits for room on its first link, moves from link to link and
ends by arriving. It may also be skipped before it enters the network, or be given up when
it has been stuck for too long. -/

inductive TripState where
  /-- At an activity, before the trip or after it. -/
  | inactive
  /-- Ready to depart since an interval, but not yet on the first link. -/
  | waiting (since : Tick)
  /-- On `link`, after `step` earlier links. -/
  | moving (link : LinkId) (step : Nat)
  /-- Leaving the network at the end of `link`. -/
  | arriving (link : LinkId)
deriving DecidableEq

inductive TripOutcome where
  | arrived
  | stuck
  /-- The trip never entered the network. -/
  | skipped
deriving DecidableEq

inductive TripAction where
  | wait (now : Tick)
  | depart (link : LinkId)
  | advance (link : LinkId)
  | arrive
  | complete
  | skip
  | abort
deriving DecidableEq

/-- A trip that has not begun and one that is over are both inactive; only the second has
an outcome. -/
structure Trip where
  state : TripState := .inactive
  outcome : Option TripOutcome := none
deriving DecidableEq

namespace TripState

def label : TripState → String
  | inactive => "Inactive"
  | waiting since => "Waiting \x7b since: Tick(" ++ toString since ++ ") \x7d"
  | moving link step =>
      "Moving \x7b link: " ++ link.label ++ ", step: " ++ toString step ++ " \x7d"
  | arriving link => "Arriving \x7b link: " ++ link.label ++ " \x7d"

def link? : TripState → Option LinkId
  | moving link _ => some link
  | _ => none

/-- The number of links that a moving trip has left behind, zero for any other. -/
def step : TripState → Nat
  | moving _ step => step
  | _ => 0

end TripState

def TripOutcome.label : TripOutcome → String
  | arrived => "Arrived"
  | stuck => "Stuck"
  | skipped => "Skipped"

def TripAction.target : TripAction → String
  | wait _ => "Waiting"
  | depart _ | advance _ => "Moving"
  | arrive => "Arriving"
  | complete | skip | abort => "Inactive"

namespace Trip

/-- The trip after an action, if the action is possible. Waiting again changes nothing. -/
def act? (trip : Trip) : TripAction → Option Trip
  | .wait now =>
      match trip.state, trip.outcome with
      | .inactive, none => some { trip with state := .waiting now }
      | .waiting _, _ => some trip
      | _, _ => none
  | .depart link =>
      match trip.state with
      | .waiting _ => some { trip with state := .moving link 0 }
      | _ => none
  | .advance link =>
      match trip.state with
      | .moving _ step => some { trip with state := .moving link (step + 1) }
      | _ => none
  | .arrive =>
      match trip.state with
      | .moving link _ => some { trip with state := .arriving link }
      | _ => none
  | .complete =>
      match trip.state with
      | .arriving _ => some ⟨.inactive, some .arrived⟩
      | _ => none
  | .skip =>
      match trip.state, trip.outcome with
      | .inactive, none => some ⟨.inactive, some .skipped⟩
      | .waiting _, _ => some ⟨.inactive, some .skipped⟩
      | _, _ => none
  | .abort =>
      match trip.state with
      | .waiting _ | .moving _ _ => some ⟨.inactive, some .stuck⟩
      | _ => none

def isFinished (trip : Trip) : Bool := trip.outcome.isSome

end Trip

end MixedTraffic

import MixedTraffic.Clock
import MixedTraffic.Key

namespace MixedTraffic

/-! What happened on the road, one record for each physical transition. -/

inductive EventKind where
  /-- The agent left its activity. It enters its first link in the same interval. -/
  | departed
  | linkEntered
  | linkLeft
  /-- The trip ended, right after its vehicle left its last link. -/
  | arrived
  /-- The vehicle was taken off the link, or never came onto it. -/
  | stuck
deriving DecidableEq

structure Event where
  time : Tick
  kind : EventKind
  agent : AgentId
  link : LinkId
deriving DecidableEq

namespace EventKind

def all : List EventKind := [departed, linkEntered, linkLeft, arrived, stuck]

def label : EventKind → String
  | departed => "departed"
  | linkEntered => "linkEntered"
  | linkLeft => "linkLeft"
  | arrived => "arrived"
  | stuck => "stuck"

end EventKind

def Event.label (event : Event) : String :=
  " ".intercalate [event.time.label, event.kind.label, event.agent.label, event.link.label]

end MixedTraffic

import MixedTraffic.Event.Basic

namespace MixedTraffic

/-- Every event of a run, in the order of emission. Events can only be appended. -/
structure EventLog where
  events : Array Event := #[]

namespace EventLog

def push (log : EventLog) (event : Event) : EventLog := ⟨log.events.push event⟩

def append (log : EventLog) (events : Array Event) : EventLog := ⟨log.events ++ events⟩

def size (log : EventLog) : Nat := log.events.size

def ofKind (log : EventLog) (kind : EventKind) : List Event :=
  log.events.toList.filter (·.kind = kind)

def ofAgent (log : EventLog) (agent : AgentId) : List Event :=
  log.events.toList.filter (·.agent = agent)

def onLink (log : EventLog) (link : LinkId) : List Event :=
  log.events.toList.filter (·.link = link)

def count (log : EventLog) (kind : EventKind) : Nat := (log.ofKind kind).length

end EventLog

end MixedTraffic

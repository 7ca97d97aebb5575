import MixedTraffic.Clock
import MixedTraffic.Key

namespace MixedTraffic

/-! Where a driver goes. The engine asks a driver for its first link and, at the end of each
link, for the next one; no answer there means that the trip ends. -/

structure RouteContext where
  now : Tick := 0
  /-- Whether flow had become permanent by the end of the previous interval. -/
  flowPermanent : Bool := false

/-- A closed loop with a way in and a way out. Drivers circle on it until flow is permanent. -/
structure Ring where
  home : LinkId
  loop : List LinkId
  /-- The link of the loop after which the exit is taken. -/
  exitAfter : LinkId
  exit : LinkId

structure LinkChooser where
  first : AgentId → RouteContext → LinkId
  next : AgentId → LinkId → RouteContext → Option LinkId

inductive Driver where
  | fixed (route : List LinkId)
  | circling (ring : Ring)
  | external (chooser : LinkChooser)

def Ring.next? (ring : Ring) (current : LinkId) (context : RouteContext) : Option LinkId :=
  if current = ring.exit then none
  else if current = ring.home then ring.loop.head?
  else if current = ring.exitAfter ∧ context.flowPermanent then some ring.exit
  else do
    let position ← ring.loop.idxOf? current
    ring.loop[(position + 1) % ring.loop.length]?

namespace Driver

/-- Whether a due departure still starts. Circling drivers stay at home once flow is
permanent. -/
def departs : Driver → RouteContext → Bool
  | circling _, context => !context.flowPermanent
  | _, _ => true

/-- The link on which a departing vehicle appears. Only an empty fixed route has none. -/
def firstLink? (driver : Driver) (agent : AgentId) (context : RouteContext) :
    Option LinkId :=
  match driver with
  | fixed route => route.head?
  | circling ring => some ring.home
  | external chooser => some (chooser.first agent context)

/-- The link after `current`, the link that the trip reached in its given step. A fixed route
goes by the step, so that it may use a link more than once. -/
def nextLink? (driver : Driver) (agent : AgentId) (current : LinkId) (step : Nat)
    (context : RouteContext) : Option LinkId :=
  match driver with
  | fixed route => route[step + 1]?
  | circling ring => ring.next? current context
  | external chooser => chooser.next agent current context

/-- The links that follow `current`, at most `count` of them. -/
def follow (driver : Driver) (agent : AgentId) (context : RouteContext)
    (current : LinkId) (step : Nat) : Nat → List LinkId
  | 0 => []
  | count + 1 =>
      match driver.nextLink? agent current step context with
      | none => []
      | some next => next :: driver.follow agent context next (step + 1) count

/-- The links of the trip from its first link on, at most `count` of them. -/
def walk (driver : Driver) (agent : AgentId) (context : RouteContext) :
    Nat → List LinkId
  | 0 => []
  | count + 1 =>
      match driver.firstLink? agent context with
      | none => []
      | some first => first :: driver.follow agent context first 0 count

def label : Driver → String
  | fixed route => "FixedRoute(" ++ toString route.length ++ ")"
  | circling ring => "RoundAndRound(" ++ toString ring.loop.length ++ ")"
  | external _ => "External"

end Driver

end MixedTraffic

import MixedTraffic.Population

namespace MixedTraffic

/-! The departures still to come. A calendar holds one slot for each interval in which
somebody is due, in ascending order. -/

structure Calendar where
  slots : List (Tick × List AgentId) := []
  size : Nat := 0

namespace Calendar

def updateSlot (tick : Tick) (change : List AgentId → List AgentId) :
    List (Tick × List AgentId) → List (Tick × List AgentId)
  | [] => [(tick, change [])]
  | (slot, agents) :: rest =>
      if tick < slot then (tick, change []) :: (slot, agents) :: rest
      else if tick = slot then (slot, change agents) :: rest
      else (slot, agents) :: updateSlot tick change rest

/-- Enters an agent behind those already due in the same interval. -/
def push (calendar : Calendar) (tick : Tick) (agent : AgentId) : Calendar :=
  { slots := updateSlot tick (· ++ [agent]) calendar.slots
    size := calendar.size + 1 }

/-- Enters agents, in their order, ahead of those already due in the same interval. -/
def requeue (calendar : Calendar) (tick : Tick) (agents : List AgentId) : Calendar :=
  if agents.isEmpty then calendar
  else
    { slots := updateSlot tick (agents ++ ·) calendar.slots
      size := calendar.size + agents.length }

/-- Takes out every agent due in an interval or before it. -/
def drain (calendar : Calendar) (tick : Tick) : List AgentId × Calendar :=
  let isDue : Tick × List AgentId → Bool := fun slot => decide (slot.1 ≤ tick)
  let due := (calendar.slots.takeWhile isDue).flatMap (·.2)
  (due, { slots := calendar.slots.dropWhile isDue, size := calendar.size - due.length })

/-- As `drain`, where the slots are split at the interval after it. -/
def drain? (α : Type) [Quantity α] (calendar : Calendar) (tick : Tick) :
    Option (List AgentId × Calendar) :=
  (tick.after? α 1).map fun _ => calendar.drain tick

theorem drain?_eq_some {α : Type} [Quantity α] {calendar : Calendar} {tick : Tick}
    {drained : List AgentId × Calendar} :
    calendar.drain? α tick = some drained ↔
      tick.after? α 1 = some (tick + 1) ∧ calendar.drain tick = drained := by
  simp [drain?, Tick.after?_eq_some]

def nextTick? (calendar : Calendar) : Option Tick := calendar.slots.head?.map (·.1)

def isEmpty (calendar : Calendar) : Bool := calendar.size == 0

/-- Enters every agent at the first interval that begins at or after its departure. -/
def ofPopulation (population : Population) (clock : Clock) : Calendar :=
  population.agents.foldl
    (fun calendar agent => calendar.push (clock.tickAtOrAfter agent.departureSecs) agent.id)
    {}

/-- As `ofPopulation`, for a clock that has not been checked: somebody departs, so its
intervals must have a length. -/
def ofPopulation? (population : Population) (clock : Clock) : Option Calendar :=
  if clock.tickSecs = 0 ∧ population.size ≠ 0 then none
  else some (ofPopulation population clock)

end Calendar

end MixedTraffic

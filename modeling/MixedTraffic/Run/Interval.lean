import MixedTraffic.Calendar
import MixedTraffic.Network.Change
import MixedTraffic.Road.Commit
import MixedTraffic.Run.Error
import MixedTraffic.Run.Summary

namespace MixedTraffic

/-! One interval of traffic. The changes of the network that have come due are made, the
flow accumulators are refilled, due agents depart, all nodes decide, and their decisions
are carried out in ascending order of the nodes. Nothing here depends on who watches. -/

structure World (α : Type) [Quantity α] where
  clock : Clock
  network : Network α
  table : ModeTable α
  population : Population
  roads : Roads α
  departures : Calendar
  changes : List (NetworkChange α)

inductive DepartureOutcome where
  | departed
  | skipped
  /-- There was no room; the agent tries again in the next interval. -/
  | turnedAway
  /-- There was no room for too long; the agent gave up. -/
  | gaveUp
deriving DecidableEq

structure Interval (α : Type) [Quantity α] where
  world : World α
  events : Array Event
  summary : IntervalSummary

namespace Traffic

variable {α : Type} [Quantity α]

def hasWaited (traffic : Traffic α) (id : AgentId) (now : Tick) : Bool :=
  let since := match (traffic.population.get? id).map (·.trip.state) with
    | some (.waiting since) => since
    | _ => now
  traffic.roads.stuckTicks.any fun limit => decide (limit ≤ now - since)

def turnAway (traffic : Traffic α) (now : Tick) (id : AgentId) (link : LinkId) :
    Except (Interrupted (RoadError α) (Traffic α)) (DepartureOutcome × Traffic α) :=
  if traffic.hasWaited id now then do
    let traffic ← traffic.act id .abort
    return (.gaveUp, traffic.emit now .stuck id link)
  else return (.turnedAway, traffic)

def depart (table : ModeTable α) (context : RouteContext) (traffic : Traffic α)
    (id : AgentId) :
    Except (Interrupted (RoadError α) (Traffic α)) (DepartureOutcome × Traffic α) := do
  let now := context.now
  let agent ← traffic.orStop ((traffic.population.find id).mapError .agent)
  if !agent.driver.departs context then
    let traffic ← traffic.act id .skip
    return (.skipped, traffic)
  else
    let traffic ← traffic.act id (.wait now)
    let link ← traffic.orStop <|
      (agent.driver.firstLink? id context).elim (.error (.agent (.emptyRoute id))) .ok
    match traffic.board table now id link with
    | .ok (_, traffic) =>
        let traffic := traffic.emit now .departed id link
        return (.departed, traffic.emit now .linkEntered id link)
    | .error stopped =>
        if stopped.cause.isCapacity then stopped.reached.turnAway now id link
        else .error stopped

def departAll (table : ModeTable α) (context : RouteContext) (traffic : Traffic α) :
    List AgentId → Except (Interrupted (RoadError α) (Traffic α))
      (List (AgentId × DepartureOutcome) × Traffic α)
  | [] => .ok ([], traffic)
  | id :: rest => do
      let (outcome, traffic) ← depart table context traffic id
      let (outcomes, traffic) ← departAll table context traffic rest
      return ((id, outcome) :: outcomes, traffic)

end Traffic

namespace World

variable {α : Type} [Quantity α]

/-- Makes a change, the first of those still to be made. -/
def applyChange (world : World α) (change : NetworkChange α) :
    Except (Interrupted (RunError α) (World α)) (World α) := do
  let network ← (world.network.apply change).mapError fun cause => ⟨.network cause, world⟩
  return { world with
    network
    roads := world.roads.refresh change.link network world.table
    changes := world.changes.tail }

def isDue (world : World α) (change : NetworkChange α) : Bool :=
  decide (world.clock.tickAtOrAfter change.atSecs ≤ world.clock.now)

def applyChanges (world : World α) :
    Except (Interrupted (RunError α) (World α)) (World α) :=
  (world.changes.takeWhile world.isDue).foldlM applyChange world

def reach (world : World α) (traffic : Traffic α) : World α :=
  { world with roads := traffic.roads, population := traffic.population }

def countOutcomes (outcomes : List (AgentId × DepartureOutcome))
    (counted : List DepartureOutcome) : Nat :=
  outcomes.countP fun (_, outcome) => counted.contains outcome

/-- Lets due agents depart. Those turned away are first in the next interval. -/
def departures? (world : World α) (context : RouteContext) :
    Except (Interrupted (RunError α) (World α))
      (List (AgentId × DepartureOutcome) × Traffic α × Calendar) := do
  let (due, calendar) ← (world.departures.drain? α context.now).elim
    (.error ⟨.road (.noSuchTick (context.now + 1)), world⟩) .ok
  let world := { world with departures := calendar }
  let traffic : Traffic α := { roads := world.roads, population := world.population }
  let (outcomes, traffic) ← (traffic.departAll world.table context due).mapError
    (·.within .ofDeparture world.reach)
  let retry := (outcomes.filter (·.2 = .turnedAway)).map (·.1)
  return (outcomes, traffic, calendar.requeue (context.now + 1) retry)

def decideAll (network : Network α) (context : RouteContext) (traffic : Traffic α) :
    Except (RoadError α) (List NodeDecision) :=
  network.nodeKeys.mapM (traffic.roads.decide network traffic.population context)

def commitAll (now : Tick) (traffic : Traffic α) (decisions : List NodeDecision) :
    Except (Interrupted (RoadError α) (Traffic α)) (Traffic α) :=
  decisions.foldlM (Traffic.commit now) traffic

/-- Simulates the current interval. The clock is not advanced. -/
def interval (world : World α) (flowPermanent : Bool) :
    Except (Interrupted (RunError α) (World α)) (Interval α) := do
  let now := world.clock.now
  let context : RouteContext := { now, flowPermanent }
  let world ← world.applyChanges
  let world := { world with roads := world.roads.refill }
  let (outcomes, traffic, departures) ← world.departures? context
  let world := { world with departures }
  let decisions ← (decideAll world.network context traffic).mapError fun cause =>
    ⟨.road cause, world.reach traffic⟩
  let traffic ← (commitAll now traffic decisions).mapError (·.within .road world.reach)
  let counts := decisions.foldl (fun counts decision => counts.add decision.counts)
    ({} : MoveCounts)
  return {
    world := world.reach traffic
    events := traffic.events
    summary := {
      tick := now
      onNetwork := traffic.roads.size
      departed := countOutcomes outcomes [.departed]
      arrived := counts.arrived
      stuck := countOutcomes outcomes [.gaveUp] + counts.stuck
      rejections := countOutcomes outcomes [.turnedAway, .gaveUp] +
        decisions.foldl (fun total decision => total + decision.rejections) 0 } }

end World

end MixedTraffic

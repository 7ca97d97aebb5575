import MixedTraffic.Random
import MixedTraffic.Route
import MixedTraffic.Setup.ModeTable
import MixedTraffic.Trip

namespace MixedTraffic

/-! The agents of a run. An agent is addressed by its position in the population. -/

structure Agent where
  id : AgentId
  mode : ModeId
  departureSecs : Nat
  driver : Driver
  trip : Trip := {}

inductive AgentError where
  | invalidTransition (agent : AgentId) (source : TripState) (target : String)
  | emptyRoute (agent : AgentId)
  | unknownMode (agent : AgentId) (mode : ModeId)
  | noSuchAgent (agent : AgentId)

def Agent.act (agent : Agent) (action : TripAction) : Except AgentError Agent :=
  match agent.trip.act? action with
  | some trip => .ok { agent with trip }
  | none => .error (.invalidTransition agent.id agent.trip.state action.target)

structure Population where
  agents : Array Agent

namespace Population

def size (population : Population) : Nat := population.agents.size

def get? (population : Population) (agent : AgentId) : Option Agent :=
  population.agents[agent.index]?

def find (population : Population) (agent : AgentId) : Except AgentError Agent :=
  (population.get? agent).elim (.error (.noSuchAgent agent)) .ok

def acting (population : Population) (agent : AgentId) (action : TripAction) :
    Except AgentError Agent := do
  let member ← population.find agent
  member.act action

def set (population : Population) (agent : AgentId) (member : Agent) : Population :=
  ⟨population.agents.setIfInBounds agent.index member⟩

def modes (population : Population) : Array ModeId :=
  population.agents.map (·.mode)

def countByMode (population : Population) (modeCount : Nat) : Array Nat :=
  population.agents.foldl (fun counts agent => counts.modify agent.mode.index (· + 1))
    (Array.replicate modeCount 0)

def finished (population : Population) : Nat :=
  population.agents.countP (·.trip.isFinished)

end Population

structure PopulationDraft where
  seed : Nat
  agents : Array Agent := #[]

namespace PopulationDraft

def add (draft : PopulationDraft) (mode : ModeId) (departureSecs : Nat)
    (driver : Driver) : PopulationDraft :=
  { draft with
    agents := draft.agents.push { id := ⟨draft.agents.size⟩, mode, departureSecs, driver } }

/-- Adds an agent that departs within `window` seconds of `departureSecs`. -/
def addJittered (draft : PopulationDraft) (mode : ModeId) (departureSecs window : Nat)
    (driver : Driver) : PopulationDraft :=
  let offset := ((Generator.forAgent draft.seed ⟨draft.agents.size⟩).secsWithin window).1
  draft.add mode (departureSecs + offset) driver

variable {α : Type} [Quantity α]

def checkAgent (table : ModeTable α) (agent : Agent) : Except AgentError Unit :=
  if !table.contains agent.mode then .error (.unknownMode agent.id agent.mode)
  else match agent.driver with
    | .fixed [] => .error (.emptyRoute agent.id)
    | _ => .ok ()

def build (draft : PopulationDraft) (table : ModeTable α) :
    Except AgentError Population := do
  draft.agents.toList.forM (checkAgent table)
  return ⟨draft.agents⟩

end PopulationDraft

end MixedTraffic

import MixedTraffic.Decimal.Style
import MixedTraffic.Key
import MixedTraffic.Output.Delimited

namespace MixedTraffic

/-! The records in which a run is written down. -/

structure EventRow where
  tick : Nat
  /-- The second of the day at which the interval begins. -/
  timeSecs : Nat
  kind : String
  agent : Nat
  link : Nat

structure IntervalRow where
  tick : Nat
  timeSecs : Nat
  onNetwork : Nat
  departed : Nat
  arrived : Nat
  stuck : Nat
  rejections : Nat

structure LinkRow where
  tick : Nat
  link : Nat
  vehicles : Nat
  occupied : Float
  storage : Float
  discharged : Float
  flowBudget : Float

structure FlowRow where
  tick : Nat
  mode : Nat
  agents : Nat
  density : Float
  flow : Float
  speedKmh : Float
  permanent : Bool

/-- The mode under which the sample of all modes together is written. -/
def FlowRow.allModes : Nat := Kind.mode.reserved

inductive OutputError where
  /-- A row whose columns by mode do not match those of the table. -/
  | modeCount (expected got : Nat)
deriving DecidableEq

def OutputError.message : OutputError → String
  | modeCount expected got =>
      "row has " ++ toString got ++ " mode columns, table has " ++ toString expected

/-- Somewhere to write a run down. Each writing may fail. -/
structure Sink (τ : Type) where
  events : List EventRow → τ → Option OutputError × τ
  interval : IntervalRow → τ → Option OutputError × τ
  links : List LinkRow → τ → Option OutputError × τ
  flow : List FlowRow → τ → Option OutputError × τ
  finish : τ → Option OutputError × τ

/-- A place to write that is a part of something larger. -/
def Sink.within {σ τ : Type} (read : σ → τ) (write : τ → σ → σ) (sink : Sink τ) : Sink σ :=
  let lift (writing : τ → Option OutputError × τ) (whole : σ) : Option OutputError × σ :=
    let (error, part) := writing (read whole)
    (error, write part whole)
  { events := fun rows => lift (sink.events rows)
    interval := fun row => lift (sink.interval row)
    links := fun rows => lift (sink.links rows)
    flow := fun rows => lift (sink.flow rows)
    finish := lift sink.finish }

structure RunSheets where
  events : Sheet := ⟨["tick", "time_secs", "kind", "agent_id", "link_id"], #[]⟩
  intervals : Sheet :=
    ⟨["tick", "time_secs", "vehicles_on_network", "departed", "arrived", "stuck",
      "rejections"], #[]⟩
  linkStates : Sheet :=
    ⟨["tick", "link_id", "vehicles", "occupied_pcu", "storage_pcu", "discharged",
      "flow_budget"], #[]⟩
  flowSamples : Sheet :=
    ⟨["tick", "mode_id", "number_of_agents", "density", "flow", "speed_kmh", "permanent"],
      #[]⟩

namespace RunSheets

def number (x : Float) : String := Decimal.text .plain x

def addEvents (sheets : RunSheets) (rows : List EventRow) : RunSheets :=
  { sheets with
    events := sheets.events.append <| rows.map fun row =>
      [toString row.tick, toString row.timeSecs, row.kind, toString row.agent,
        toString row.link] }

def addInterval (sheets : RunSheets) (row : IntervalRow) : RunSheets :=
  { sheets with
    intervals := sheets.intervals.append
      [[row.tick, row.timeSecs, row.onNetwork, row.departed, row.arrived, row.stuck,
        row.rejections].map toString] }

def addLinks (sheets : RunSheets) (rows : List LinkRow) : RunSheets :=
  { sheets with
    linkStates := sheets.linkStates.append <| rows.map fun row =>
      [toString row.tick, toString row.link, toString row.vehicles, number row.occupied,
        number row.storage, number row.discharged, number row.flowBudget] }

def addFlow (sheets : RunSheets) (rows : List FlowRow) : RunSheets :=
  { sheets with
    flowSamples := sheets.flowSamples.append <| rows.map fun row =>
      [toString row.tick, toString row.mode, toString row.agents, number row.density,
        number row.flow, number row.speedKmh, if row.permanent then "1" else "0"] }

/-- Writing into sheets never fails. -/
def sink : Sink RunSheets where
  events rows sheets := (none, sheets.addEvents rows)
  interval row sheets := (none, sheets.addInterval row)
  links rows sheets := (none, sheets.addLinks rows)
  flow rows sheets := (none, sheets.addFlow rows)
  finish sheets := (none, sheets)

/-- The text of each table under its name. -/
def texts (sheets : RunSheets) : List (String × String) :=
  [("events", sheets.events), ("intervals", sheets.intervals),
    ("link_states", sheets.linkStates), ("flow_samples", sheets.flowSamples)].map
    fun (name, sheet) => (name, sheet.text ',')

end RunSheets

end MixedTraffic

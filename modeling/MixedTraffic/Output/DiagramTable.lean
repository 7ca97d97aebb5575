import MixedTraffic.Output.Rows
import MixedTraffic.Quantity

namespace MixedTraffic

/-! The table of a fundamental diagram: agents, density, flow and speed, each in total and
then by mode, followed by the rates of overtaking. -/

/-- One point of the diagram. Its columns by mode follow the modes of the table. -/
structure DiagramRow (α : Type) where
  agents : Nat
  modeAgents : List Nat
  density : α
  modeDensity : List α
  flow : α
  modeFlow : List α
  speedKmh : α
  modeSpeedKmh : List α
  overtakesPerKm : α
  /-- The overtakes within the pair of the table. -/
  pairOvertakesPerKm : Option α
  averageRate : α

structure DiagramTable (α : Type) where
  modes : List String
  /-- An overtaking and an overtaken mode whose rate has a column of its own. -/
  pair : Option (String × String)
  rows : Array (DiagramRow α) := #[]

namespace DiagramTable

variable {α : Type} [Quantity α]

def header (table : DiagramTable α) : List String :=
  (["n", "k", "q", "v"].flatMap fun quantity =>
    quantity :: table.modes.map fun mode => quantity ++ "_" ++ mode) ++
  "overtakes_per_km" ::
  (table.pair.toList.map fun (first, second) => first ++ "_overtakes_" ++ second ++ "_per_km") ++
  ["avg_overtake_rate"]

/-- The fields of a row under the header, in which quantities are shown by `render`. -/
def fields (table : DiagramTable α) (render : α → String) (row : DiagramRow α) :
    List String :=
  toString row.agents :: row.modeAgents.map toString ++
  render row.density :: row.modeDensity.map render ++
  render row.flow :: row.modeFlow.map render ++
  render row.speedKmh :: row.modeSpeedKmh.map render ++
  render row.overtakesPerKm ::
  (table.pair.toList.map fun _ => render (row.pairOvertakesPerKm.getD Quantity.zero)) ++
  [render row.averageRate]

/-- Adds a row, unless one of its columns by mode has the wrong length. -/
def add (table : DiagramTable α) (row : DiagramRow α) :
    Except OutputError (DiagramTable α) :=
  let lengths := [row.modeAgents.length, row.modeDensity.length, row.modeFlow.length,
    row.modeSpeedKmh.length]
  match lengths.find? (· != table.modes.length) with
  | some got => .error (.modeCount table.modes.length got)
  | none => .ok { table with rows := table.rows.push row }

def text (table : DiagramTable Float) : String :=
  Sheet.text '\t'
    { header := table.header
      records := table.rows.map (table.fields (Decimal.fixed 2)) }

end DiagramTable

end MixedTraffic

import MixedTraffic.Output.DiagramTable
import MixedTraffic.Proofs.Delimited
import MixedTraffic.Proofs.Lists

namespace MixedTraffic

/-! The columns of a diagram table. Each name stands over the value that it is the name of, in
every row that is written. -/

variable {α : Type}

namespace DiagramRow

/-- That each column by mode has an entry for each of so many modes. -/
structure Fits (row : DiagramRow α) (modes : Nat) : Prop where
  agents : row.modeAgents.length = modes
  density : row.modeDensity.length = modes
  flow : row.modeFlow.length = modes
  speed : row.modeSpeedKmh.length = modes

theorem fits_iff {row : DiagramRow α} {modes : Nat} :
    row.Fits modes ↔ [row.modeAgents.length, row.modeDensity.length, row.modeFlow.length,
      row.modeSpeedKmh.length].find? (· != modes) = none := by
  simp only [List.find?_eq_none, List.forall_mem_cons, bne_iff_ne, ne_eq, Decidable.not_not]
  exact ⟨fun fits => ⟨fits.agents, fits.density, fits.flow, fits.speed, nofun⟩,
    fun ⟨agents, density, flow, speed, _⟩ => ⟨agents, density, flow, speed⟩⟩

instance (row : DiagramRow α) (modes : Nat) : Decidable (row.Fits modes) :=
  decidable_of_iff _ fits_iff.symm

def quantities (render : α → String) (row : DiagramRow α) : List (String × String × List String) :=
  [("n", toString row.agents, row.modeAgents.map toString),
    ("k", render row.density, row.modeDensity.map render),
    ("q", render row.flow, row.modeFlow.map render),
    ("v", render row.speedKmh, row.modeSpeedKmh.map render)]

theorem Fits.quantities {row : DiagramRow α} {modes : Nat} (fits : row.Fits modes)
    (render : α → String) :
    ∀ quantity ∈ row.quantities render, quantity.2.2.length = modes := by
  simp [DiagramRow.quantities, fits.agents, fits.density, fits.flow, fits.speed]

end DiagramRow

namespace DiagramTable

variable {table : DiagramTable α} {row : DiagramRow α} {render : α → String}

def headings (table : DiagramTable α) (name : String) : List String :=
  name :: table.modes.map fun mode => name ++ "_" ++ mode

theorem length_headings (table : DiagramTable α) (name : String) :
    (table.headings name).length = table.modes.length + 1 := by
  simp [headings]

theorem length_names (table : DiagramTable α) (render : α → String) (row : DiagramRow α) :
    ((row.quantities render).flatMap fun quantity => table.headings quantity.1).length =
      4 * (table.modes.length + 1) :=
  length_flatMap_of_length fun quantity _ => table.length_headings quantity.1

theorem length_header (table : DiagramTable α) :
    table.header.length = 4 * (table.modes.length + 1) + (table.pair.toList.length + 2) := by
  simp [header]
  omega

theorem length_block (fits : row.Fits table.modes.length) (render : α → String) :
    ∀ quantity ∈ row.quantities render, (quantity.2.1 :: quantity.2.2).length =
      table.modes.length + 1 := fun quantity listed =>
  congrArg (· + 1) (fits.quantities render quantity listed)

theorem length_values (fits : row.Fits table.modes.length) (render : α → String) :
    ((row.quantities render).flatMap fun quantity => quantity.2.1 :: quantity.2.2).length =
      4 * (table.modes.length + 1) :=
  length_flatMap_of_length (length_block fits render)

theorem add_of_fits (fits : row.Fits table.modes.length) :
    table.add row = .ok { table with rows := table.rows.push row } := by
  rw [add, DiagramRow.fits_iff.mp fits]

theorem add_of_not_fits (misfits : ¬row.Fits table.modes.length) :
    ∃ got, [row.modeAgents.length, row.modeDensity.length, row.modeFlow.length,
        row.modeSpeedKmh.length].find? (· != table.modes.length) = some got ∧
      table.add row = .error (.modeCount table.modes.length got) := by
  rw [DiagramRow.fits_iff, ← ne_eq, Option.ne_none_iff_exists'] at misfits
  obtain ⟨got, found⟩ := misfits
  refine ⟨got, found, ?_⟩
  rw [add, found]

/-- The table after a row has been offered. One that does not fit changes nothing. -/
def offer (table : DiagramTable α) (row : DiagramRow α) : DiagramTable α :=
  match table.add row with
  | .ok table => table
  | .error _ => table

/-- The table after some rows have been offered in turn. -/
def ofRows (modes : List String) (pair : Option (String × String))
    (offered : List (DiagramRow α)) : DiagramTable α :=
  offered.foldl offer { modes, pair }

theorem offer_eq (table : DiagramTable α) (row : DiagramRow α) :
    table.offer row =
      if row.Fits table.modes.length then { table with rows := table.rows.push row }
      else table := by
  split
  next fits => rw [offer, add_of_fits fits]
  next misfits =>
    obtain ⟨got, -, refused⟩ := add_of_not_fits misfits
    rw [offer, refused]

theorem foldl_offer (table : DiagramTable α) (offered : List (DiagramRow α)) :
    offered.foldl offer table =
      { table with rows := table.rows ++ offered.filter (·.Fits table.modes.length) } := by
  induction offered generalizing table with
  | nil => simp
  | cons row rest ih =>
      rw [List.foldl_cons, offer_eq, List.filter_cons]
      split
      next fits => simp [ih, fits]
      next misfits => simp [ih, misfits]

variable [Quantity α]

def rates (table : DiagramTable α) (render : α → String) (row : DiagramRow α) :
    List (String × String) :=
  ("overtakes_per_km", render row.overtakesPerKm) ::
  (table.pair.toList.map fun (first, second) =>
    (first ++ "_overtakes_" ++ second ++ "_per_km",
      render (row.pairOvertakesPerKm.getD Quantity.zero))) ++
  [("avg_overtake_rate", render row.averageRate)]

theorem header_eq (table : DiagramTable α) (render : α → String) (row : DiagramRow α) :
    table.header =
      ((row.quantities render).flatMap fun quantity => table.headings quantity.1) ++
        (table.rates render row).map (·.1) := by
  simp [header, headings, DiagramRow.quantities, rates]

theorem fields_eq (table : DiagramTable α) (render : α → String) (row : DiagramRow α) :
    table.fields render row =
      ((row.quantities render).flatMap fun quantity => quantity.2.1 :: quantity.2.2) ++
        (table.rates render row).map (·.2) := by
  cases given : table.pair <;> simp [fields, DiagramRow.quantities, rates, given]

/-- That a name stands in a column of the header and a value under it. -/
def Shows (table : DiagramTable α) (render : α → String) (row : DiagramRow α) (column : Nat)
    (name value : String) : Prop :=
  table.header[column]? = some name ∧ (table.fields render row)[column]? = some value

theorem length_rates (table : DiagramTable α) (render : α → String) (row : DiagramRow α) :
    (table.rates render row).length = table.pair.toList.length + 2 := by
  simp [rates]

/-- That the fields of a row stand under their names: of each quantity the total and then the
values by mode, and after them the rates, of which the one within the pair has a column only if the
table has a pair. -/
structure Aligned (table : DiagramTable α) (render : α → String) (row : DiagramRow α) : Prop where
  length : (table.fields render row).length = table.header.length
  total : ∀ {position name total values},
    (row.quantities render)[position]? = some (name, total, values) →
    table.Shows render row (position * (table.modes.length + 1)) name total
  byMode : ∀ {position name total values index mode},
    (row.quantities render)[position]? = some (name, total, values) →
    table.modes[index]? = some mode → ∃ value, values[index]? = some value ∧
      table.Shows render row (position * (table.modes.length + 1) + (index + 1))
        (name ++ "_" ++ mode) value
  overtakes : table.Shows render row (4 * (table.modes.length + 1)) "overtakes_per_km"
    (render row.overtakesPerKm)
  between : ∀ {first second}, table.pair = some (first, second) →
    table.Shows render row (4 * (table.modes.length + 1) + 1)
      (first ++ "_overtakes_" ++ second ++ "_per_km")
      (render (row.pairOvertakesPerKm.getD Quantity.zero))
  average : table.Shows render row
    (4 * (table.modes.length + 1) + (table.pair.toList.length + 1)) "avg_overtake_rate"
    (render row.averageRate)

section Columns

variable (fits : row.Fits table.modes.length)

include fits

theorem length_fields : (table.fields render row).length = table.header.length := by
  rw [length_header, fields_eq, List.length_append, length_values fits render,
    List.length_map, length_rates]

theorem getElem?_of_quantity {quantity : String × String × List String} {position offset : Nat}
    (listed : (row.quantities render)[position]? = some quantity)
    (within : offset < table.modes.length + 1) :
    table.header[position * (table.modes.length + 1) + offset]? =
        (table.headings quantity.1)[offset]? ∧
      (table.fields render row)[position * (table.modes.length + 1) + offset]? =
        (quantity.2.1 :: quantity.2.2)[offset]? := by
  have names : ∀ quantity ∈ row.quantities render,
      (table.headings quantity.1).length = table.modes.length + 1 := fun quantity _ =>
    table.length_headings quantity.1
  have values := length_block fits render
  have inside : position * (table.modes.length + 1) + offset <
      (row.quantities render).length * (table.modes.length + 1) := by
    have bound := (List.getElem?_eq_some_iff.mp listed).1
    calc
      position * (table.modes.length + 1) + offset
      _ < (position + 1) * (table.modes.length + 1) := by rw [Nat.succ_mul]; omega
      _ ≤ (row.quantities render).length * (table.modes.length + 1) :=
        Nat.mul_le_mul_right _ bound
  rw [header_eq table render row, fields_eq,
    List.getElem?_append_left (by rwa [length_flatMap_of_length names]),
    List.getElem?_append_left (by rwa [length_flatMap_of_length values]),
    getElem?_flatMap_of_length names within, getElem?_flatMap_of_length values within, listed]
  exact ⟨rfl, rfl⟩

theorem shows_total {name total : String} {values : List String} {position : Nat}
    (listed : (row.quantities render)[position]? = some (name, total, values)) :
    table.Shows render row (position * (table.modes.length + 1)) name total :=
  getElem?_of_quantity fits listed (Nat.succ_pos _)

theorem shows_mode {name total mode : String} {values : List String} {position index : Nat}
    (listed : (row.quantities render)[position]? = some (name, total, values))
    (known : table.modes[index]? = some mode) :
    ∃ value, values[index]? = some value ∧
      table.Shows render row (position * (table.modes.length + 1) + (index + 1))
        (name ++ "_" ++ mode) value := by
  have bound := (List.getElem?_eq_some_iff.mp known).1
  have length : values.length = table.modes.length :=
    fits.quantities render _ (List.mem_of_getElem? listed)
  obtain ⟨header, fields⟩ := getElem?_of_quantity fits listed (Nat.succ_lt_succ bound)
  rw [headings, List.getElem?_cons_succ] at header
  rw [List.getElem?_cons_succ] at fields
  have value : values[index]? = some values[index] := List.getElem?_eq_getElem (length ▸ bound)
  refine ⟨_, value, ?_, fields.trans value⟩
  rw [header, List.getElem?_map, known]
  rfl

theorem shows_rate {name value : String} {index : Nat}
    (listed : (table.rates render row)[index]? = some (name, value)) :
    table.Shows render row (4 * (table.modes.length + 1) + index) name value := by
  have names := length_names table render row
  have values := length_values fits render
  constructor
  · rw [header_eq table render row, List.getElem?_append_right (names ▸ Nat.le_add_right ..), names,
      Nat.add_sub_cancel_left, List.getElem?_map, listed]
    rfl
  · rw [fields_eq, List.getElem?_append_right (values ▸ Nat.le_add_right ..), values,
      Nat.add_sub_cancel_left, List.getElem?_map, listed]
    rfl

/-- Every name of the header stands over the value of a row that it is the name of. -/
theorem aligned (render : α → String) : table.Aligned render row where
  length := length_fields fits
  total listed := shows_total fits listed
  byMode listed known := shows_mode fits listed known
  overtakes := by
    have first : (table.rates render row)[0]? =
        some ("overtakes_per_km", render row.overtakesPerKm) := rfl
    exact shows_rate fits first
  between given := shows_rate fits (by rw [rates, given]; rfl)
  average := shows_rate fits (by cases given : table.pair <;> simp [rates, given])

end Columns

theorem decode_text (table : DiagramTable Float) :
    Delimited.decode '\t' table.text =
      table.header :: table.rows.toList.map (table.fields (Decimal.fixed 2)) := by
  let sheet : Sheet :=
    { header := table.header, records := table.rows.map (table.fields (Decimal.fixed 2)) }
  have records : ∀ record ∈ sheet.records, record ≠ [] := by
    intro record member
    obtain ⟨row, -, rfl⟩ := Array.mem_map.mp member
    exact List.cons_ne_nil _ _
  calc
    Delimited.decode '\t' (sheet.text '\t')
    _ = sheet.header :: sheet.records.toList :=
      Sheet.decode_text (by decide) (by decide) (List.cons_ne_nil _ _) records
    _ = table.header :: table.rows.toList.map (table.fields (Decimal.fixed 2)) := by
      rw [Array.toList_map]

/-- Header and rows of a diagram table stay aligned, whatever rows are offered to it. Exactly those
are written that have an entry for each mode in all four columns by mode; any other is refused and
changes nothing. The text reads back as the header and one record for each row written, in which
every name of the header stands over the value that it is the name of. -/
theorem ofRows_aligned (modes : List String) (pair : Option (String × String))
    (offered : List (DiagramRow Float)) :
    let table := ofRows modes pair offered
    table.modes = modes ∧ table.pair = pair ∧
    table.rows.toList = offered.filter (·.Fits modes.length) ∧
    (∀ row, row.Fits modes.length →
      table.add row = .ok (ofRows modes pair (offered ++ [row]))) ∧
    (∀ row, ¬row.Fits modes.length →
      (∃ got, table.add row = .error (.modeCount modes.length got)) ∧
        ofRows modes pair (offered ++ [row]) = table) ∧
    Delimited.decode '\t' table.text =
      table.header :: table.rows.toList.map (table.fields (Decimal.fixed 2)) ∧
    (Delimited.decode '\t' table.text).length = table.rows.size + 1 ∧
    table.header.length = 4 * (modes.length + 1) + (pair.toList.length + 2) ∧
    ∀ row ∈ table.rows, table.Aligned (Decimal.fixed 2) row := by
  intro table
  have whole : table = { modes, pair, rows := (offered.filter (·.Fits modes.length)).toArray } :=
    (foldl_offer { modes, pair } offered).trans (by simp)
  have next (row : DiagramRow Float) : ofRows modes pair (offered ++ [row]) = table.offer row := by
    rw [ofRows, List.foldl_append]
    rfl
  have named : table.modes = modes := by rw [whole]
  have paired : table.pair = pair := by rw [whole]
  have rows : table.rows.toList = offered.filter (·.Fits modes.length) := by rw [whole]
  have read := decode_text table
  refine ⟨named, paired, rows, fun row fits => ?_, fun row misfits => ?_, read, ?_, ?_, ?_⟩
  · rw [← named] at fits
    rw [next, offer_eq, if_pos fits, add_of_fits fits]
  · rw [← named] at misfits
    obtain ⟨got, -, refused⟩ := add_of_not_fits misfits
    rw [next, offer_eq, if_neg misfits, refused, named]
    exact ⟨⟨got, rfl⟩, rfl⟩
  · rw [read]
    simp
  · rw [length_header, named, paired]
  · intro row member
    rw [← Array.mem_toList_iff, rows, List.mem_filter, decide_eq_true_eq, ← named] at member
    exact aligned member.2 _

end DiagramTable

end MixedTraffic

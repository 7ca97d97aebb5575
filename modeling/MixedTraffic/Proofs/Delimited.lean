import MixedTraffic.Output.Delimited

namespace MixedTraffic

/-! A table reads back as it was written, whatever its fields hold. -/

namespace Delimited

/-- Where a reader stands within a field. -/
inductive Place where
  | start
  | plain
  | quoted
  /-- After a quote that ends the field, unless another follows. -/
  | closing

structure Reader where
  records : List (List String) := []
  fields : List String := []
  field : List Char := []
  place : Place := .start

namespace Reader

def endField (reader : Reader) : Reader :=
  { reader with
    fields := reader.fields ++ [String.ofList reader.field]
    field := []
    place := .start }

def endRecord (reader : Reader) : Reader :=
  { records := reader.records ++ [reader.fields ++ [String.ofList reader.field]] }

def readPlain (delimiter : Char) (reader : Reader) (c : Char) : Reader :=
  if c = delimiter then reader.endField
  else if c = '\n' then reader.endRecord
  else { reader with field := reader.field ++ [c], place := .plain }

def read (delimiter : Char) (reader : Reader) (c : Char) : Reader :=
  match reader.place with
  | .start =>
      if c = '"' then { reader with place := .quoted } else reader.readPlain delimiter c
  | .plain => reader.readPlain delimiter c
  | .quoted =>
      if c = '"' then { reader with place := .closing }
      else { reader with field := reader.field ++ [c] }
  | .closing =>
      if c = '"' then { reader with field := reader.field ++ [c], place := .quoted }
      else reader.readPlain delimiter c

end Reader

/-- The records of a text, each ended by a line end. -/
def decode (delimiter : Char) (text : String) : List (List String) :=
  (text.toList.foldl (Reader.read delimiter) {}).records

variable {delimiter : Char} {records : List (List String)} {fields : List String}
  {field chars : List Char}

theorem foldl_read_doubleQuotes :
    (doubleQuotes chars).foldl (Reader.read delimiter) ⟨records, fields, field, .quoted⟩ =
      ⟨records, fields, field ++ chars, .quoted⟩ := by
  induction chars generalizing field with
  | nil => simp [doubleQuotes]
  | cons c rest ih =>
      rw [doubleQuotes]
      split
      next same => simp [Reader.read, same, ih]
      next other => simp [Reader.read, other, ih]

theorem foldl_read_quote (text : String) :
    (quote text).toList.foldl (Reader.read delimiter) ⟨records, fields, [], .start⟩ =
      ⟨records, fields, text.toList, .closing⟩ := by
  simp [quote, Reader.read, foldl_read_doubleQuotes]

theorem foldl_read_plain {place : Place} (unquoted : place = .start ∨ place = .plain)
    (bare : ∀ c ∈ chars, c ≠ delimiter ∧ c ≠ '"' ∧ c ≠ '\n') :
    ∃ place', (place' = .start ∨ place' = .plain) ∧
      chars.foldl (Reader.read delimiter) ⟨records, fields, field, place⟩ =
        ⟨records, fields, field ++ chars, place'⟩ := by
  induction chars generalizing field place with
  | nil => exact ⟨place, unquoted, by simp⟩
  | cons c rest ih =>
      obtain ⟨first, others⟩ := List.forall_mem_cons.mp bare
      have step : Reader.read delimiter ⟨records, fields, field, place⟩ c =
          ⟨records, fields, field ++ [c], .plain⟩ := by
        obtain rfl | rfl := unquoted <;> simp [Reader.read, Reader.readPlain, first]
      rw [List.foldl_cons, step, List.append_cons field c rest]
      exact ih (.inr rfl) others

theorem needsQuotes_eq_false {text : String} (bare : needsQuotes delimiter text = false) :
    ∀ c ∈ text.toList, c ≠ delimiter ∧ c ≠ '"' ∧ c ≠ '\n' := by
  intro c member
  have plain : text.toList.any
      (fun c => c == delimiter || c == '"' || c == '\r' || c == '\n') = false :=
    String.contains_bool_eq.symm.trans bare
  have clean := List.any_eq_false.mp plain c member
  simp only [Bool.or_eq_true, beq_iff_eq, not_or] at clean
  exact ⟨clean.1.1.1, clean.1.1.2, clean.2⟩

theorem foldl_read_encodeField (text : String) :
    ∃ place, place ≠ .quoted ∧
      (encodeField delimiter text).toList.foldl (Reader.read delimiter)
        ⟨records, fields, [], .start⟩ = ⟨records, fields, text.toList, place⟩ := by
  unfold encodeField
  split
  next => exact ⟨.closing, nofun, foldl_read_quote text⟩
  next bare =>
    obtain ⟨place, unquoted, read⟩ :=
      foldl_read_plain (.inl rfl) (needsQuotes_eq_false (Bool.eq_false_iff.mpr bare))
    refine ⟨place, ?_, read⟩
    rintro rfl
    simp at unquoted

theorem foldl_read_field (sound : delimiter ≠ '"') (text : String) :
    ((encodeField delimiter text).toList ++ [delimiter]).foldl (Reader.read delimiter)
      ⟨records, fields, [], .start⟩ = ⟨records, fields ++ [text], [], .start⟩ := by
  obtain ⟨place, unquoted, read⟩ := foldl_read_encodeField text
  rw [List.foldl_append, read]
  cases place <;> simp [Reader.read, Reader.readPlain, Reader.endField, sound] at unquoted ⊢

theorem foldl_read_last (sound : delimiter ≠ '\n') (text : String) :
    ((encodeField delimiter text).toList ++ ['\n']).foldl (Reader.read delimiter)
      ⟨records, fields, [], .start⟩ = ⟨records ++ [fields ++ [text]], [], [], .start⟩ := by
  obtain ⟨place, unquoted, read⟩ := foldl_read_encodeField text
  rw [List.foldl_append, read]
  cases place <;>
    simp [Reader.read, Reader.readPlain, Reader.endRecord, sound.symm] at unquoted ⊢

/-- The characters of a line. -/
theorem toList_line (first : String) (rest : List String) :
    (delimiter.toString.intercalate ((first :: rest).map (encodeField delimiter)) ++ "\n").toList =
      match rest with
      | [] => (encodeField delimiter first).toList ++ ['\n']
      | second :: later => (encodeField delimiter first).toList ++ [delimiter] ++
          (delimiter.toString.intercalate ((second :: later).map (encodeField delimiter)) ++
            "\n").toList := by
  cases rest with
  | nil => simp
  | cons second later =>
      simp [String.toList_intercalate, List.intercalate]

theorem foldl_read_line (quote : delimiter ≠ '"') (newline : delimiter ≠ '\n') (first : String)
    (rest : List String) :
    (delimiter.toString.intercalate ((first :: rest).map (encodeField delimiter)) ++
        "\n").toList.foldl (Reader.read delimiter) ⟨records, fields, [], .start⟩ =
      ⟨records ++ [fields ++ first :: rest], [], [], .start⟩ := by
  induction rest generalizing first fields with
  | nil => rw [toList_line, foldl_read_last newline]
  | cons second rest ih =>
      rw [toList_line, List.foldl_append, foldl_read_field quote, ih]
      simp

theorem foldl_read_encodeRecord (quote : delimiter ≠ '"') (newline : delimiter ≠ '\n')
    (filled : fields ≠ []) :
    (encodeRecord delimiter fields).toList.foldl (Reader.read delimiter)
      ⟨records, [], [], .start⟩ = ⟨records ++ [fields], [], [], .start⟩ := by
  unfold encodeRecord
  split
  next => exact absurd rfl filled
  next =>
    -- Without its quotes, the one empty field would be no field.
    rw [String.toList_append, List.foldl_append, foldl_read_quote]
    simp [Reader.read, Reader.readPlain, Reader.endRecord, newline.symm]
  next =>
    obtain ⟨first, rest, rfl⟩ := List.exists_cons_of_ne_nil filled
    exact foldl_read_line quote newline first rest

end Delimited

namespace Sheet

variable {delimiter : Char} {sheet : Sheet}

theorem text_eq (delimiter : Char) (sheet : Sheet) :
    (sheet.text delimiter).toList =
      (sheet.header :: sheet.records.toList).flatMap fun record =>
        (Delimited.encodeRecord delimiter record).toList := by
  have grown (text : String) (records : List (List String)) :
      (records.foldl (fun text record => text ++ Delimited.encodeRecord delimiter record)
        text).toList = text.toList ++ records.flatMap fun record =>
          (Delimited.encodeRecord delimiter record).toList := by
    induction records generalizing text with
    | nil => simp
    | cons record rest ih => simp [ih]
  rw [text, ← Array.foldl_toList, grown, List.flatMap_cons]

theorem decode_text (quote : delimiter ≠ '"') (newline : delimiter ≠ '\n')
    (header : sheet.header ≠ []) (records : ∀ record ∈ sheet.records, record ≠ []) :
    Delimited.decode delimiter (sheet.text delimiter) =
      sheet.header :: sheet.records.toList := by
  have read (before lines : List (List String)) (filled : ∀ record ∈ lines, record ≠ []) :
      (lines.flatMap fun record => (Delimited.encodeRecord delimiter record).toList).foldl
        (Delimited.Reader.read delimiter) ⟨before, [], [], .start⟩ =
          ⟨before ++ lines, [], [], .start⟩ := by
    induction lines generalizing before with
    | nil => simp
    | cons record rest ih =>
        obtain ⟨first, others⟩ := List.forall_mem_cons.mp filled
        rw [List.flatMap_cons, List.foldl_append,
          Delimited.foldl_read_encodeRecord quote newline first, ih _ others]
        simp
  have whole := read [] (sheet.header :: sheet.records.toList)
    (List.forall_mem_cons.mpr ⟨header, by simpa using records⟩)
  rw [Delimited.decode, text_eq]
  exact congrArg Delimited.Reader.records whole

end Sheet

end MixedTraffic

namespace MixedTraffic

/-! Tables of text, one record a line. A field is quoted, its own quotes doubled, when it
holds a quote, the delimiter or a line end. What is proved of the columns of a table is about
its records, however they are written down. -/

namespace Delimited

def needsQuotes (delimiter : Char) (field : String) : Bool :=
  field.any fun c => c == delimiter || c == '"' || c == '\r' || c == '\n'

def doubleQuotes : List Char → List Char
  | [] => []
  | c :: rest => if c = '"' then '"' :: '"' :: doubleQuotes rest else c :: doubleQuotes rest

def quote (field : String) : String :=
  "\"" ++ String.ofList (doubleQuotes field.toList) ++ "\""

def encodeField (delimiter : Char) (field : String) : String :=
  if needsQuotes delimiter field then quote field else field

/-- The line of a record. A single empty field is quoted, so that the line is not empty. -/
def encodeRecord (delimiter : Char) (fields : List String) : String :=
  match fields with
  | [] | [""] => quote "" ++ "\n"
  | _ => delimiter.toString.intercalate (fields.map (encodeField delimiter)) ++ "\n"

end Delimited

structure Sheet where
  header : List String
  records : Array (List String) := #[]

namespace Sheet

def append (sheet : Sheet) (records : List (List String)) : Sheet :=
  { sheet with records := sheet.records ++ records }

def text (delimiter : Char) (sheet : Sheet) : String :=
  sheet.records.foldl (fun text record => text ++ Delimited.encodeRecord delimiter record)
    (Delimited.encodeRecord delimiter sheet.header)

end Sheet

end MixedTraffic

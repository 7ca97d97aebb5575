namespace MixedTraffic

/-- A JSON value. A number keeps its digits as they are written, since what they mean
depends on whether a count or an amount is expected. A string whose escapes name half of a
surrogate pair has no text. -/
inductive Json where
  | null
  | bool (value : Bool)
  | number (literal : String)
  | string (text : Option String)
  | array (items : List Json)
  | object (members : List (Option String × Json))

namespace Json

def ofText (text : String) : Json := .string (some text)

def ofNat (value : Nat) : Json := .number (toString value)

def ofMembers (members : List (String × Json)) : Json :=
  .object (members.map fun (name, value) => (some name, value))

def ofOption {α : Type} (encode : α → Json) (value : Option α) : Json :=
  value.elim .null encode

def ofList {α : Type} (encode : α → Json) (values : List α) : Json :=
  .array (values.map encode)

end Json

end MixedTraffic

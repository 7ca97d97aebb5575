import MixedTraffic.Decimal.Style
import MixedTraffic.Json.Value

namespace MixedTraffic.Json

/-! JSON text with one member or item a line, indented by two spaces a level. -/

/-- A number that is not finite has no JSON form and is written as null. -/
def ofFloat (x : Float) : Json :=
  if x.isFinite then .number (Decimal.text .json x) else .null

def escapeChar (c : Char) : String :=
  if c = '"' then "\\\""
  else if c = '\\' then "\\\\"
  else if c = '\x08' then "\\b"
  else if c = '\x0c' then "\\f"
  else if c = '\n' then "\\n"
  else if c = '\r' then "\\r"
  else if c = '\t' then "\\t"
  else if c < ' ' then
    "\\u00" ++ (if c.toNat < 16 then "0" else "1") ++
      String.ofList (Nat.toDigits 16 (c.toNat % 16))
  else c.toString

def quoted (text : String) : String :=
  "\"" ++ String.join (text.toList.map escapeChar) ++ "\""

def indent (level : Nat) : String := "\n" ++ String.ofList (List.replicate (2 * level) ' ')

mutual

def pretty (level : Nat) : Json → String
  | .null => "null"
  | .bool value => if value then "true" else "false"
  | .number literal => literal
  | .string text => quoted (text.getD "")
  | .array [] => "[]"
  | .array (first :: rest) =>
      "[" ++ indent (level + 1) ++ pretty (level + 1) first ++ prettyItems level rest
  | .object [] => "\x7b\x7d"
  | .object ((name, value) :: rest) =>
      "\x7b" ++ indent (level + 1) ++ quoted (name.getD "") ++ ": " ++
        pretty (level + 1) value ++ prettyMembers level rest

/-- The items after the first one, and the closing bracket. -/
def prettyItems (level : Nat) : List Json → String
  | [] => indent level ++ "]"
  | item :: rest =>
      "," ++ indent (level + 1) ++ pretty (level + 1) item ++ prettyItems level rest

/-- The members after the first one, and the closing brace. -/
def prettyMembers (level : Nat) : List (Option String × Json) → String
  | [] => indent level ++ "\x7d"
  | (name, value) :: rest =>
      "," ++ indent (level + 1) ++ quoted (name.getD "") ++ ": " ++
        pretty (level + 1) value ++ prettyMembers level rest

end

def text (json : Json) : String := pretty 0 json

end MixedTraffic.Json

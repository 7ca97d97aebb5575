import MixedTraffic.Json.Numeral
import MixedTraffic.Json.Reader

namespace MixedTraffic.Json

/-! Taking settings out of JSON values. A setting that is absent keeps its default, one of
the wrong type makes the whole unreadable, and unknown members are passed over. -/

abbrev Decoder (α : Type) := Json → Option α

def toBool? : Decoder Bool
  | .bool value => some value
  | _ => none

def toText? : Decoder String
  | .string text => text
  | _ => none

def toFloat? : Decoder Float
  | .number literal => (Numeral.ofLiteral literal).float?
  | _ => none

def toNat? (largest : Nat) : Decoder Nat
  | .number literal => do
      let value ← (Numeral.ofLiteral literal).natural?
      if value ≤ largest then some value else none
  | _ => none

def toWord? : Decoder Nat := toNat? 0xffffffff

def toLong? : Decoder Nat := toNat? 0xffffffffffffffff

def toList? {α : Type} (item : Decoder α) : Decoder (List α)
  | .array items => items.mapM item
  | _ => none

def toOption? {α : Type} (value : Decoder α) : Decoder (Option α)
  | .null => some none
  | json => (value json).map some

/-- One of several names, each of which stands for a value. A name may also be written as
the only member of an object, with null for its value. -/
def toChoice? {α : Type} (choices : List (String × α)) : Decoder α
  | .string (some name) => choices.lookup name
  | .object [(some name, .null)] => choices.lookup name
  | _ => none

/-- The members of an object. The `known` ones may be given once only. Instead of an object
there may be an array with the values of the first known ones. -/
def toMembers? (known : List String) : Decoder (List (String × Json))
  | .object members => do
      let named ← members.mapM fun (name, value) => name.map (·, value)
      let isRepeated (name : String) : Bool := decide (1 < named.countP (·.1 == name))
      if known.any isRepeated then none else some named
  | .array values =>
      if values.length ≤ known.length then some (known.zip values) else none
  | _ => none

def member {α : Type} (members : List (String × Json)) (name : String) (default : α)
    (decode : Decoder α) : Option α :=
  match members.lookup name with
  | none => some default
  | some value => decode value

def requiredMember {α : Type} (members : List (String × Json)) (name : String)
    (decode : Decoder α) : Option α :=
  (members.lookup name).bind decode

end MixedTraffic.Json

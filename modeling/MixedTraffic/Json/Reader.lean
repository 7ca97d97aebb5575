import MixedTraffic.Json.Value

namespace MixedTraffic.Json

/-! Reading JSON text. Each scanner takes a value off the front of the text and answers with
what follows it. -/

def isBlank (c : Char) : Bool := c == ' ' || c == '\n' || c == '\t' || c == '\r'

def skipBlank (text : List Char) : List Char := text.dropWhile isBlank

def hexDigit? (c : Char) : Option Nat :=
  if '0' ≤ c ∧ c ≤ '9' then some (c.toNat - '0'.toNat)
  else if 'a' ≤ c ∧ c ≤ 'f' then some (c.toNat - 'a'.toNat + 10)
  else if 'A' ≤ c ∧ c ≤ 'F' then some (c.toNat - 'A'.toNat + 10)
  else none

/-- The code unit that four hexadecimal digits name. -/
def codeUnit? (a b c d : Char) : Option Nat := do
  return ((← hexDigit? a) * 16 + (← hexDigit? b)) * 256 +
    (← hexDigit? c) * 16 + (← hexDigit? d)

def escaped? : Char → Option Char
  | '"' => some '"'
  | '\\' => some '\\'
  | '/' => some '/'
  | 'b' => some '\x08'
  | 'f' => some '\x0c'
  | 'n' => some '\n'
  | 'r' => some '\r'
  | 't' => some '\t'
  | _ => none

def isHighSurrogate (unit : Nat) : Bool := decide (0xd800 ≤ unit ∧ unit < 0xdc00)

def isLowSurrogate (unit : Nat) : Bool := decide (0xdc00 ≤ unit ∧ unit < 0xe000)

/-- Reads a string after its opening quote. `text` holds the characters so far, last first,
and is absent once half of a surrogate pair has been met. -/
def scanString (text : Option (List Char)) :
    List Char → Option (Option String × List Char)
  | '"' :: rest => some (text.map fun chars => String.ofList chars.reverse, rest)
  | '\\' :: 'u' :: a :: b :: c :: d :: rest =>
      match codeUnit? a b c d with
      | none => none
      | some unit =>
          if isHighSurrogate unit then
            match rest with
            | '\\' :: 'u' :: e :: f :: g :: h :: rest =>
                match codeUnit? e f g h with
                | none => none
                | some low =>
                    if isLowSurrogate low then
                      let c := Char.ofNat
                        (0x10000 + (unit - 0xd800) * 0x400 + (low - 0xdc00))
                      scanString (text.map (c :: ·)) rest
                    else scanString none rest
            | rest => scanString none rest
          else if isLowSurrogate unit then scanString none rest
          else scanString (text.map (Char.ofNat unit :: ·)) rest
  | '\\' :: c :: rest =>
      match escaped? c with
      | none => none
      | some c => scanString (text.map (c :: ·)) rest
  | c :: rest => if c < ' ' then none else scanString (text.map (c :: ·)) rest
  | [] => none

/-- Splits off the digits at the front, of which there must be one. -/
def scanDigits (text : List Char) : Option (List Char × List Char) :=
  let digits := text.takeWhile Char.isDigit
  if digits.isEmpty then none else some (digits, text.dropWhile Char.isDigit)

/-- The digits before the decimal point. Only zero itself begins with a zero. -/
def scanWhole (text : List Char) : Option (List Char × List Char) := do
  let (digits, rest) ← scanDigits text
  if digits.length ≠ 1 ∧ digits.head? = some '0' then none else some (digits, rest)

def scanFraction : List Char → Option (List Char × List Char)
  | '.' :: rest => do
      let (digits, rest) ← scanDigits rest
      return ('.' :: digits, rest)
  | rest => some ([], rest)

def scanExponent : List Char → Option (List Char × List Char)
  | c :: rest =>
      if c = 'e' ∨ c = 'E' then
        match rest with
        | '+' :: rest => do
            let (digits, rest) ← scanDigits rest
            return ('e' :: digits, rest)
        | '-' :: rest => do
            let (digits, rest) ← scanDigits rest
            return ('e' :: '-' :: digits, rest)
        | rest => do
            let (digits, rest) ← scanDigits rest
            return ('e' :: digits, rest)
      else some ([], c :: rest)
  | [] => some ([], [])

/-- Reads a number, whose exponent is written with a small `e` and without a plus sign from
then on. -/
def scanNumber (text : List Char) : Option (Json × List Char) := do
  let (sign, rest) := match text with
    | '-' :: rest => (['-'], rest)
    | rest => ([], rest)
  let (whole, rest) ← scanWhole rest
  let (fraction, rest) ← scanFraction rest
  let (exponent, rest) ← scanExponent rest
  return (.number (String.ofList (sign ++ whole ++ fraction ++ exponent)), rest)

mutual

/-- Reads a value, blanks before it included. The fuel bounds the nesting. -/
def scanValue : Nat → List Char → Option (Json × List Char)
  | 0, _ => none
  | fuel + 1, text =>
      match skipBlank text with
      | 'n' :: 'u' :: 'l' :: 'l' :: rest => some (.null, rest)
      | 't' :: 'r' :: 'u' :: 'e' :: rest => some (.bool true, rest)
      | 'f' :: 'a' :: 'l' :: 's' :: 'e' :: rest => some (.bool false, rest)
      | '"' :: rest => do
          let (text, rest) ← scanString (some []) rest
          return (.string text, rest)
      | '[' :: rest =>
          match skipBlank rest with
          | ']' :: rest => some (.array [], rest)
          | rest => do
              let (items, rest) ← scanItems fuel rest
              return (.array items, rest)
      | '\x7b' :: rest =>
          match skipBlank rest with
          | '\x7d' :: rest => some (.object [], rest)
          | rest => do
              let (members, rest) ← scanMembers fuel rest
              return (.object members, rest)
      | text => scanNumber text

def scanItems : Nat → List Char → Option (List Json × List Char)
  | 0, _ => none
  | fuel + 1, text => do
      let (first, rest) ← scanValue fuel text
      match skipBlank rest with
      | ',' :: rest =>
          let (others, rest) ← scanItems fuel rest
          return (first :: others, rest)
      | ']' :: rest => some ([first], rest)
      | _ => none

def scanMembers : Nat → List Char → Option (List (Option String × Json) × List Char)
  | 0, _ => none
  | fuel + 1, text =>
      match skipBlank text with
      | '"' :: rest => do
          let (name, rest) ← scanString (some []) rest
          match skipBlank rest with
          | ':' :: rest =>
              let (value, rest) ← scanValue fuel rest
              match skipBlank rest with
              | ',' :: rest =>
                  let (others, rest) ← scanMembers fuel rest
                  return ((name, value) :: others, rest)
              | '\x7d' :: rest => some ([(name, value)], rest)
              | _ => none
          | _ => none
      | _ => none

end

/-- The value that a text holds and nothing else. -/
def parse? (text : String) : Option Json := do
  let chars := text.toList
  -- A value and a list of values are at most begun once at each character.
  let (value, rest) ← scanValue (2 * chars.length + 2) chars
  if (skipBlank rest).isEmpty then some value else none

end MixedTraffic.Json

import AdRules.Value
import AdRules.Double.Text
import AdRules.Text.Quoted
import AdRules.Text.Stray
import AdRules.Timestamp.Text

/-!
# Values as JSON text

Every character above ASCII is escaped, in two halves when it needs more than sixteen bits, and so
is a half that stands alone. Doubles that are not finite are written as the words `NaN`, `Infinity`
and `-Infinity`.
-/

namespace AdRules.Json

/-- A unit of sixteen bits in four hexadecimal digits. -/
def unitEscape (n : Nat) : List Char := '\\' :: 'u' :: Text.hex 4 n

/-- One character inside a JSON string. -/
def escape (c : Char) : List Char :=
  if c = '"' then ['\\', '"']
  else if c = '\\' then ['\\', '\\']
  else if c = '\n' then ['\\', 'n']
  else if c = '\r' then ['\\', 'r']
  else if c = '\t' then ['\\', 't']
  else if c.toNat = 8 then ['\\', 'b']
  else if c.toNat = 12 then ['\\', 'f']
  else if 0x20 ≤ c.toNat ∧ c.toNat < 0x7F then [c]
  else if c.toNat = 0x7F then [c]
  else if c.toNat < 0x10000 then unitEscape c.toNat
  else
    match Text.half? c with
    | some half => unitEscape half
    | none =>
      unitEscape (0xD800 + (c.toNat - 0x10000) / 0x400) ++
        unitEscape (0xDC00 + (c.toNat - 0x10000) % 0x400)

/-- A text as a JSON string. -/
def string (text : String) : String := String.ofList ('"' :: text.toList.flatMap escape ++ ['"'])

/-- A double as a JSON number or word. -/
def number : Double → String
  | .nan => "NaN"
  | .infinity true => "-Infinity"
  | .infinity false => "Infinity"
  | value => value.text

mutual

/-- A value as JSON text with a blank after every comma and colon. -/
def render : Value → String
  | .null => "null"
  | .bool true => "true"
  | .bool false => "false"
  | .int value => toString value
  | .float value => number value
  | .text text => string text
  | .time time => string time.recordText
  | .list items => "[" ++ ", ".intercalate (renderItems items) ++ "]"
  | .record fields => "\x7b" ++ ", ".intercalate (renderFields fields) ++ "\x7d"

/-- Every item as JSON text. -/
def renderItems : List Value → List String
  | [] => []
  | item :: rest => render item :: renderItems rest

/-- Every field as JSON text. -/
def renderFields : List (String × Value) → List String
  | [] => []
  | (name, value) :: rest => (string name ++ ": " ++ render value) :: renderFields rest

end

end AdRules.Json

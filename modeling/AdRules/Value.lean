import AdRules.Double
import AdRules.Timestamp

/-!
# Values of unknown shape

Requests, fetched answers, configuration and stored rows arrive as values whose shape is not known
beforehand. A record keeps its fields in the order of first arrival and each name once.
-/

namespace AdRules

/-- A value of unknown shape, as it comes from JSON, from a row or from a caller. Instances of types
    outside these shapes are left out. -/
inductive Value where
  | null
  | bool (value : Bool)
  | int (value : Int)
  | float (value : Double)
  | text (value : String)
  | time (value : Timestamp)
  | list (items : List Value)
  | record (fields : List (String × Value))
  deriving Inhabited

/-- The fields of a record in order. Each name is meant to stand once; where it does not, the first
    one is found. -/
abbrev Fields := List (String × Value)

namespace Fields

/-- The value under a name. -/
def get? (fields : Fields) (name : String) : Option Value :=
  (fields.find? fun field => field.1 == name).map (·.2)

/-- The value under a name, null when there is none. -/
def getD (fields : Fields) (name : String) : Value := (get? fields name).getD .null

/-- Puts a value under a name: in the place of an earlier one, or at the end. -/
def set (fields : Fields) (name : String) (value : Value) : Fields :=
  if fields.any (fun field => field.1 == name) then
    fields.map fun field => if field.1 == name then (name, value) else field
  else fields ++ [(name, value)]

/-- The record of a list of fields in which later values of a name replace earlier ones. -/
def ofList (entries : List (String × Value)) : Fields :=
  entries.foldl (fun fields (name, value) => set fields name value) []

end Fields

namespace Value

/-- A missing text is null. -/
def ofText? : Option String → Value
  | some content => .text content
  | none => .null

/-- A missing timestamp is null. -/
def ofTime? : Option Timestamp → Value
  | some moment => .time moment
  | none => .null

/-- A missing integer is null. -/
def ofInt? : Option Int → Value
  | some value => .int value
  | none => .null

/-- The number that a value is; true and false are one and zero. -/
def number? : Value → Option Number
  | .bool value => some (.int (if value then 1 else 0))
  | .int value => some (.int value)
  | .float value => some (.float value)
  | _ => none

/-- Null, false, zero and everything empty count as nothing given. -/
def isEmpty : Value → Bool
  | .null => true
  | .bool value => !value
  | .int value => value == 0
  | .float (.finite _ size) => size.mantissa == 0
  | .float _ => false
  | .text content => content.isEmpty
  | .time _ => false
  | .list items => items.isEmpty
  | .record fields => fields.isEmpty

/-- The word that messages use for the shape of a value. -/
def shapeName : Value → String
  | .null => "NoneType"
  | .bool _ => "bool"
  | .int _ => "int"
  | .float _ => "float"
  | .text _ => "str"
  | .time _ => "datetime"
  | .list _ => "list"
  | .record _ => "dict"

/-- Two values that name the same thing: numbers by value, everything else by shape and content.
    Lists and records name nothing. -/
def sameName (left right : Value) : Bool :=
  match left, right with
  | .null, .null => true
  | .text left, .text right => left == right
  | .time left, .time right =>
    left.isAware == right.isAware && left.instant == right.instant
  | left, right =>
    match left.number?.bind Number.level?, right.number?.bind Number.level? with
    | some left, some right => left == right
    | _, _ => false

end Value

end AdRules

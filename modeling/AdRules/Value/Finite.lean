import AdRules.Value

/-!
# Values with finite numbers

Whether every double in a value is finite, and the value with null in the place of those that are
not.
-/

namespace AdRules.Value

mutual

/-- Every double in a value is finite. -/
def isFinite : Value → Bool
  | .float value => value.isFinite
  | .list items => itemsFinite items
  | .record fields => fieldsFinite fields
  | _ => true

/-- Every double in every item is finite. -/
def itemsFinite : List Value → Bool
  | [] => true
  | item :: rest => isFinite item && itemsFinite rest

/-- Every double in every field is finite. -/
def fieldsFinite : List (String × Value) → Bool
  | [] => true
  | (_, value) :: rest => isFinite value && fieldsFinite rest

end

mutual

/-- A value with null in the place of every double that is not finite. -/
def finitePart : Value → Value
  | .float value => if value.isFinite then .float value else .null
  | .list items => .list (finiteItems items)
  | .record fields => .record (finiteFields fields)
  | value => value

/-- The finite parts of items. -/
def finiteItems : List Value → List Value
  | [] => []
  | item :: rest => finitePart item :: finiteItems rest

/-- The finite parts of fields. -/
def finiteFields : List (String × Value) → List (String × Value)
  | [] => []
  | (name, value) :: rest => (name, finitePart value) :: finiteFields rest

end

end AdRules.Value

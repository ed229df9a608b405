import AdRules.Value
import AdRules.Text.Stray

/-!
# Values with whole texts

Whether no text in a value, and no name of a field, holds half of a surrogate pair.
-/

namespace AdRules.Value

mutual

/-- Every text in a value is whole. -/
def isWhole : Value → Bool
  | .text content => Text.isWhole content
  | .list items => itemsWhole items
  | .record fields => fieldsWhole fields
  | _ => true

/-- Every text in every item is whole. -/
def itemsWhole : List Value → Bool
  | [] => true
  | item :: rest => isWhole item && itemsWhole rest

/-- Every text in every field, and every name, is whole. -/
def fieldsWhole : List (String × Value) → Bool
  | [] => true
  | (name, value) :: rest => Text.isWhole name && isWhole value && fieldsWhole rest

end

end AdRules.Value

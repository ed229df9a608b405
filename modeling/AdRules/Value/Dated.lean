import AdRules.Value

/-!
# Values with timestamps written out

A value with a text in the place of every timestamp.
-/

namespace AdRules.Value

mutual

/-- A value whose timestamps are written as texts. -/
def dated (write : Timestamp → String) : Value → Value
  | .time moment => .text (write moment)
  | .list items => .list (datedItems write items)
  | .record fields => .record (datedFields write fields)
  | value => value

/-- Items whose timestamps are written as texts. -/
def datedItems (write : Timestamp → String) : List Value → List Value
  | [] => []
  | item :: rest => dated write item :: datedItems write rest

/-- Fields whose timestamps are written as texts. -/
def datedFields (write : Timestamp → String) : List (String × Value) → List (String × Value)
  | [] => []
  | (name, value) :: rest => (name, dated write value) :: datedFields write rest

end

end AdRules.Value

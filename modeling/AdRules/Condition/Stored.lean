import AdRules.Failure
import AdRules.Text.Script

/-!
# Conditions read back from storage

A stored condition is read leniently: a row with an unknown metric or comparison, or with a
threshold that is not a number, becomes a damaged condition that keeps the raw values. A line of the
log names the row by its identifier then. The log is left out, but an identifier that cannot be
written in it is not: the row is not read.
-/

namespace AdRules

/-- A stored threshold as a double; `none` is a value that is no number. -/
def storedThreshold? : Value → Except Failure (Option Double)
  | .float value => .ok (some value)
  | .bool value => .ok (some (Double.ofInt (if value then 1 else 0)))
  | .int value =>
    match Double.ofInt? value with
    | some value => .ok (some value)
    | none => .error .outOfRange
  | .text content => .ok (Text.toDouble? content)
  | _ => .ok none

/-- A condition read back: sound, or damaged with its raw values. -/
inductive StoredCondition where
  | sound (condition : Condition)
  | damaged (condition : Condition)

namespace StoredCondition

/-- The condition itself, whether it was read as it should be or kept as it was found. -/
def condition : StoredCondition → Condition
  | .sound condition => condition
  | .damaged condition => condition

/-- The condition was read as it should be. Of any other the log says that it will never hold. -/
def isSound : StoredCondition → Bool
  | .sound _ => true
  | .damaged _ => false

/-- The order of a stored condition: under either of its names, zero when nothing is given. -/
def orderOf (row : Fields) : Value :=
  let order := match row.get? "order" with
    | some order => order
    | none => (row.get? "sort_order").getD (.int 0)
  if order.isEmpty then .int 0 else order

/-- The checked form of a row whose words and threshold are sound. -/
def checked (row : Fields) (metric : Metric) (comparison : Comparison) (threshold : Double) :
    Checked Condition :=
  Condition.ofFields
    [("id", row.getD "id"), ("group_id", row.getD "group_id"),
     ("metric", Vocabulary.toValue metric), ("operator", Vocabulary.toValue comparison),
     ("threshold", .float threshold), ("order", orderOf row)]

/-- What is kept of a row that is damaged. That it is damaged is noted under the identifier of the
    row, which fails where that cannot be written. -/
def keep (row : Fields) : Except Failure StoredCondition :=
  if (row.getD "id").isWritable then .ok (.damaged (Condition.unchecked row (orderOf row)))
  else .error (.tooManyDigits none)

/-- Reads the fields of a row. What cannot be checked is kept as it is and noted, which fails where
    the note cannot be written. -/
def ofRow (row : Fields) : Except Failure StoredCondition :=
  match (row.get? "metric").bind Vocabulary.ofValue?,
      (row.get? "operator").bind Vocabulary.ofValue? with
  | some metric, some comparison =>
    match (row.get? "threshold").map storedThreshold? with
    | some (.error failure) => .error failure
    | some (.ok (some threshold)) =>
      match checked row metric comparison threshold with
      | .valid condition => .ok (.sound condition)
      | .invalid _ => keep row
    | _ => keep row
  | _, _ => keep row

/-- Reads a stored value, which has to be a record. -/
def ofValue : Value → Except Failure StoredCondition
  | .record row => ofRow row
  | value => .error (.noFields value.shapeName "get")

end StoredCondition

end AdRules

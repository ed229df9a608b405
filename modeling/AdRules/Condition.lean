import AdRules.Metrics
import AdRules.Value.Finite

/-!
# Conditions

A condition compares one metric with a threshold, a group joins conditions by one junction. Drafts
are what a caller hands in and hold members of the vocabularies only; what is stored may have been
damaged since, and then keeps the raw values.
-/

namespace AdRules

/-- How a figure is compared with a threshold. There are no others; a stored word that names none of
    them compares nothing. -/
inductive Comparison where
  | greater
  | less
  | equal
  | atLeast
  | atMost
  deriving DecidableEq

/-- The words of the comparisons, in the order in which a choice among them is worded. -/
instance : Vocabulary Comparison where
  members := [.greater, .less, .equal, .atLeast, .atMost]
  word
    | .greater => "gt"
    | .less => "lt"
    | .equal => "eq"
    | .atLeast => "gte"
    | .atMost => "lte"

/-- How the conditions of a group are joined. Groups of a rule are always joined by "any". -/
inductive Junction where
  | all
  | any
  deriving DecidableEq

/-- The words of the junctions. They are the words of logic, not those of the members here. -/
instance : Vocabulary Junction where
  members := [.all, .any]
  word
    | .all => "AND"
    | .any => "OR"

/-- A condition as a caller hands it in, all of whose parts are known and whose threshold is finite
    once it was checked. -/
structure ConditionDraft where
  metric : Metric
  comparison : Comparison
  threshold : Double
  deriving DecidableEq

namespace ConditionDraft

/-- A threshold that is a finite number. Infinities and not-a-number are refused here, though stored
    conditions may hold them. -/
def checkThreshold (input : Value) : Checked Double :=
  (Check.float input).andThen fun value =>
    if value.isFinite then .valid value
    else Checked.fault (.rule "Threshold must be a finite number") input

/-- Checks the three fields of a draft, in the order in which they are declared. -/
def ofFields (fields : Fields) : Checked ConditionDraft :=
  ConditionDraft.mk
    <$> Checked.required fields "metric" Check.choice
    <*> Checked.required fields "operator" Check.choice
    <*> Checked.required fields "threshold" checkThreshold

/-- Checks the draft of a condition that is given as a record. -/
def check (setting : Setting) : Value → Checked ConditionDraft :=
  Check.model setting "ConditionCreate" ofFields

/-- The record of a draft, with the words of metric and comparison. -/
def toValue (draft : ConditionDraft) : Value :=
  .record
    [("metric", Vocabulary.toValue draft.metric), ("operator", Vocabulary.toValue draft.comparison),
     ("threshold", .float draft.threshold)]

end ConditionDraft

/-- Conditions joined by one junction, as a caller hands them in. -/
structure GroupDraft where
  junction : Junction
  conditions : List ConditionDraft
  deriving DecidableEq

namespace GroupDraft

/-- Checks the two fields; there is at least one condition. -/
def ofFields (setting : Setting) (fields : Fields) : Checked GroupDraft :=
  GroupDraft.mk
    <$> Checked.optional fields "operator" .all Check.choice
    <*> Checked.required fields "conditions"
      (Checked.someItems (ConditionDraft.check setting))

/-- Checks the draft of a group that is given as a record. -/
def check (setting : Setting) : Value → Checked GroupDraft :=
  Check.model setting "ConditionGroupCreate" (ofFields setting)

/-- The record of a drafted group, with its junction even where none was given. -/
def toValue (draft : GroupDraft) : Value :=
  .record
    [("operator", Vocabulary.toValue draft.junction),
     ("conditions", .list (draft.conditions.map ConditionDraft.toValue))]

end GroupDraft

/-- A stored condition. A sound one has a known metric and comparison and a double as its threshold;
    a damaged one keeps whatever was stored. -/
structure Condition where
  id : Value
  groupId : Value
  metric : Term Metric
  comparison : Term Comparison
  threshold : Value
  order : Value

namespace Condition

/-- Checks the fields of a condition. Words outside the vocabularies are kept. -/
def ofFields (fields : Fields) : Checked Condition :=
  (fun id groupId metric comparison threshold order =>
      Condition.mk (.ofText? id) (.ofText? groupId) metric comparison (.float threshold)
        (.int order))
    <$> Checked.optional fields "id" none (Checked.nullable Check.text)
    <*> Checked.optional fields "group_id" none (Checked.nullable Check.text)
    <*> Checked.required fields "metric" (Term.check "str-enum[Metric]")
    <*> Checked.required fields "operator" (Term.check "str-enum[ComparisonOperator]")
    <*> Checked.required fields "threshold" Check.float
    <*> Checked.optional fields "order" 0 Check.int

/-- Checks a stored condition. Words that nobody knows pass as they are, and so does a threshold
    that is not finite. -/
def check (setting : Setting) : Value → Checked Condition :=
  Check.model setting "Condition" ofFields

/-- The raw fields taken as they are, with null for those that are missing. Nothing is checked, so
    every part may hold any value. -/
def unchecked (fields : Fields) (order : Value) : Condition :=
  ⟨fields.getD "id", fields.getD "group_id", Term.read (fields.getD "metric"),
    Term.read (fields.getD "operator"), fields.getD "threshold", order⟩

/-- A threshold in a record: a double where it is a number within their range, and otherwise its
    finite part. -/
def thresholdShown (threshold : Value) : Value :=
  match threshold.number? with
  | some (.float value) => .float value
  | some (.int value) =>
    match Double.ofInt? value with
    | some value => .float value
    | none => .int value
  | none => threshold.finitePart

/-- An order in a record: an integer where it is true or false, and otherwise its finite part. -/
def orderShown : Value → Value
  | .bool value => .int (if value then 1 else 0)
  | order => order.finitePart

/-- The record of a condition. What was stored in place of a part is shown as far as it is finite.
-/
def toValue (condition : Condition) : Value :=
  .record
    [("id", condition.id.finitePart), ("group_id", condition.groupId.finitePart),
     ("metric", condition.metric.toValue.finitePart),
     ("operator", condition.comparison.toValue.finitePart),
     ("threshold", thresholdShown condition.threshold), ("order", orderShown condition.order)]

end Condition

/-- A stored group of conditions, with its place among the groups of its rule. -/
structure ConditionGroup where
  id : Option String
  ruleId : Option String
  junction : Term Junction
  order : Int
  conditions : List Condition

namespace ConditionGroup

/-- Checks the fields of a group, given how its conditions are checked. -/
def ofFieldsWith (conditions : Value → Checked (List Condition)) (fields : Fields) :
    Checked ConditionGroup :=
  ConditionGroup.mk
    <$> Checked.optional fields "id" none (Checked.nullable Check.text)
    <*> Checked.optional fields "rule_id" none (Checked.nullable Check.text)
    <*> Checked.optional fields "operator" (.known .all)
      (Term.check "str-enum[GroupOperator]")
    <*> Checked.optional fields "order" 0 Check.int
    <*> Checked.optional fields "conditions" [] conditions

/-- Checks a stored group with its conditions, each of them as a stored condition. -/
def check (setting : Setting) : Value → Checked ConditionGroup :=
  Check.model setting "ConditionGroup"
    (ofFieldsWith (Checked.items (Condition.check setting)))

/-- The record of a group, with its conditions in order. -/
def toValue (group : ConditionGroup) : Value :=
  .record
    [("id", .ofText? group.id), ("rule_id", .ofText? group.ruleId),
     ("operator", group.junction.toValue), ("order", .int group.order),
     ("conditions", .list (group.conditions.map Condition.toValue))]

end ConditionGroup

end AdRules

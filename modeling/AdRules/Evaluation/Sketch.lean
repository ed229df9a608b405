import AdRules.Evaluation
import AdRules.Failure

/-!
# Evaluating conditions that nobody has checked

A sketch is a condition that nobody has checked, in which parts may be missing. Evaluating it fails
when it comes to a missing part; a part that it does not come to may be missing. A condition that
cannot be compared does not hold, and a line of the log says so. The log itself is left out here,
but not what its lines are made of: a line cannot be written where an integer of too many digits
would stand in it, and then evaluation fails. Conditions, groups and rules are evaluated as the
sketches of them are, in which nothing is missing.
-/

namespace AdRules

/-- A condition in which parts may be missing. Its identifier is only written, never needed. -/
structure Sketch where
  id : Value
  metric : Option (Term Metric)
  comparison : Option (Term Comparison)
  threshold : Option Value

namespace Sketch

/-- The sketch that some fields give. Fields of other names are passed over. -/
def ofFields (fields : Fields) : Sketch :=
  ⟨fields.getD "id", (fields.get? "metric").map Term.read,
    (fields.get? "operator").map Term.read, fields.get? "threshold"⟩

/-- The sketch of a condition, in which nothing is missing. -/
def ofCondition (condition : Condition) : Sketch :=
  ⟨condition.id, some condition.metric, some condition.comparison, some condition.threshold⟩

/-- A part that is needed, or the failure that names the part which is missing. -/
def need {α : Type} (name : String) : Option α → Except Failure α
  | some part => .ok part
  | none => .error (.noFields "Condition" name)

/-- Notes that a condition cannot be compared, in a line in which some values are written. It does
    not hold then, unless the line cannot be written, which is a failure of its own. -/
def note (values : List Value) : Except Failure Bool :=
  if values.all Value.isWritable then .ok false else .error (.tooManyDigits none)

/-- Compares a figure with what stands as a threshold. Whether they are equal can be said of any two
    values, and a figure equals nothing that is no number; no other comparison with such a threshold
    makes sense, which is noted. -/
def compare (comparison : Comparison) (figure : Number) (threshold : Value) :
    Except Failure Bool :=
  match threshold.number? with
  | some number => .ok (comparison.compares figure number)
  | none => if comparison = .equal then .ok false else note [figure.toValue, threshold]

/-- Whether a sketch holds, its metric, comparison and threshold being looked at in this order. -/
def holds (sketch : Sketch) (metrics : Metrics) : Except Failure Bool := do
  match ← need "metric" sketch.metric with
  | .unrecognised stored => note [sketch.id, stored]
  | .known metric =>
    match ← need "operator" sketch.comparison with
    | .unrecognised stored => note [sketch.id, stored]
    | .known comparison =>
      compare comparison (metrics.value metric) (← need "threshold" sketch.threshold)

end Sketch

/-- Sketches joined by one junction, which itself may be a word that nobody knows. -/
structure GroupSketch where
  junction : Term Junction
  conditions : List Sketch

namespace GroupSketch

/-- The sketch of a group, in whose conditions nothing is missing. -/
def ofGroup (group : ConditionGroup) : GroupSketch :=
  ⟨group.junction, group.conditions.map Sketch.ofCondition⟩

/-- The outcomes of the conditions, all of which are evaluated, so that one that fails cannot be
    passed over by an earlier one that decides. -/
def outcomes (group : GroupSketch) (metrics : Metrics) : Except Failure (List Bool) :=
  group.conditions.mapM (·.holds metrics)

/-- Whether a group holds: with "all" when every condition does, otherwise when one does. -/
def holds (group : GroupSketch) (metrics : Metrics) : Except Failure Bool := do
  let outcomes ← group.outcomes metrics
  pure (match group.junction with
    | .known .all => outcomes.all id
    | _ => outcomes.any id)

/-- Whether one of some groups holds, all of which are evaluated. -/
def someHolds (groups : List GroupSketch) (metrics : Metrics) : Except Failure Bool := do
  pure ((← groups.mapM (·.holds metrics)).any id)

end GroupSketch

/-- Evaluates a condition for a reading of the metrics. It fails only where a line about the
    condition cannot be written. -/
def Condition.evaluate (condition : Condition) (metrics : Metrics) : Except Failure Bool :=
  (Sketch.ofCondition condition).holds metrics

/-- Evaluates a group for a reading of the metrics. All its conditions are evaluated, so one that
    fails is never passed over. -/
def ConditionGroup.evaluate (group : ConditionGroup) (metrics : Metrics) : Except Failure Bool :=
  (GroupSketch.ofGroup group).holds metrics

/-- Evaluates a rule for a reading of the metrics. All its groups are evaluated, whatever the first
    of them come to. -/
def Rule.evaluate (rule : Rule) (metrics : Metrics) : Except Failure Bool :=
  GroupSketch.someHolds (rule.groups.map GroupSketch.ofGroup) metrics

end AdRules

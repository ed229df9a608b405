import AdRules.Rule

/-!
# Evaluation

When a condition, a group and a rule hold for a reading of the metrics: a condition that does not
make sense does not hold. This is what evaluating them is meant to find out. Evaluating a condition
that does not make sense also leaves a line in a log, and fails where that line cannot be written;
`Condition.evaluate` and `Rule.evaluate` are the evaluation with these failures.
-/

namespace AdRules

/-- Two places of the number line stand in the relation of a comparison. -/
def Comparison.relates : Comparison → Level → Level → Bool
  | .greater, figure, threshold => threshold.lt figure
  | .less, figure, threshold => figure.lt threshold
  | .equal, figure, threshold => figure == threshold
  | .atLeast, figure, threshold => threshold.le figure
  | .atMost, figure, threshold => figure.le threshold

/-- Two numbers stand in the relation of a comparison; not-a-number stands in none. -/
def Comparison.compares (comparison : Comparison) (figure threshold : Number) : Bool :=
  match figure.level?, threshold.level? with
  | some figure, some threshold => comparison.relates figure threshold
  | _, _ => false

/-- A condition holds when its metric and comparison are known, its threshold is a number, and the
    metric's figure stands in that relation to the threshold. Evaluating it comes to the same
    wherever it does not fail, and it never fails where metric and comparison are known and the
    threshold is a number: then nothing is left to be noted (`Condition.Readable.evaluate_eq`). -/
def Condition.holds (condition : Condition) (metrics : Metrics) : Bool :=
  match condition.metric, condition.comparison, condition.threshold.number? with
  | .known metric, .known comparison, some threshold =>
    comparison.compares (metrics.value metric) threshold
  | _, _, _ => false

/-- A group joined by "all" holds when every condition does, any other group when one does. A word
    that is no junction joins like "any". -/
def ConditionGroup.holds (group : ConditionGroup) (metrics : Metrics) : Bool :=
  match group.junction with
  | .known .all => group.conditions.all (·.holds metrics)
  | _ => group.conditions.any (·.holds metrics)

/-- A rule is triggered when one of its groups holds, so a rule without groups never is. Rules whose
    conditions are all readable are evaluated to this for every reading
    (`Rule.Readable.evaluate_eq`), and no rule is evaluated to true that is not triggered. -/
def Rule.triggers (rule : Rule) (metrics : Metrics) : Bool :=
  rule.groups.any (·.holds metrics)

end AdRules

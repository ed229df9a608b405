import AdRules.Evaluation.Sketch

/-!
# Evaluating conditions, groups and rules

Evaluating a condition comes to whether it holds, or fails because a line about it cannot be
written. The failure is always the same one, so a group fails exactly if one of its conditions does
and a rule exactly if one of its groups does, whatever the others come to. Conditions of which
nothing has to be noted never fail; those are the conditions that a store makes of drafts.
-/

namespace AdRules

/-! ## Lists of outcomes -/

section Lists

variable {α β : Type} {evaluate : α → Except Failure β} {outcome : α → β} {entries : List α}
  {failure : Failure}

/-- Evaluating entries one after the other, none of which fails, gives all their outcomes. -/
theorem mapM_ok (succeeds : ∀ entry ∈ entries, evaluate entry = .ok (outcome entry)) :
    entries.mapM evaluate = .ok (entries.map outcome) := by
  induction entries with
  | nil => rfl
  | cons entry rest inductionHypothesis =>
    rw [List.forall_mem_cons] at succeeds
    rw [List.mapM_cons, succeeds.1, inductionHypothesis succeeds.2]
    rfl

/-- Evaluating entries fails as one of them does, where they can fail in one way only. -/
theorem mapM_failed
    (cases : ∀ entry ∈ entries, evaluate entry = .ok (outcome entry) ∨
      evaluate entry = .error failure)
    (failed : ∃ entry ∈ entries, evaluate entry = .error failure) :
    entries.mapM evaluate = .error failure := by
  induction entries with
  | nil => simp at failed
  | cons entry rest inductionHypothesis =>
    rw [List.forall_mem_cons] at cases
    rw [List.mapM_cons]
    rcases cases.1 with first | first
    · have later : ∃ other ∈ rest, evaluate other = .error failure := by
        obtain ⟨other, listed, fails⟩ := failed
        rcases List.mem_cons.mp listed with rfl | behind
        · rw [first] at fails
          cases fails
        · exact ⟨other, behind, fails⟩
      rw [first, inductionHypothesis cases.2 later]
      rfl
    · rw [first]
      rfl

end Lists

/-! ## Conditions -/

/-- Nothing has to be noted about a condition: its metric and its comparison are known, and its
threshold is a number, which may be infinite or not a number. -/
structure Condition.Readable (condition : Condition) : Prop where
  metric : ∃ metric, condition.metric = .known metric
  comparison : ∃ comparison, condition.comparison = .known comparison
  threshold : ∃ number, condition.threshold.number? = some number

/-- A line is written, and says that a condition does not hold, or cannot be written. -/
theorem Sketch.note_cases (values : List Value) :
    note values = .ok false ∨ note values = .error (.tooManyDigits none) := by
  unfold note
  split
  · exact .inl rfl
  · exact .inr rfl

/-- Writing a line fails exactly where an integer in one of its values is too long. -/
theorem Sketch.note_failed_iff {values : List Value} :
    note values = .error (.tooManyDigits none) ↔ ∃ value ∈ values, value.isWritable = false := by
  unfold note
  split
  · next written =>
    simp only [reduceCtorEq, false_iff]
    rintro ⟨value, listed, unwritable⟩
    rw [List.all_eq_true.mp written value listed] at unwritable
    cases unwritable
  · next unwritten => simpa using unwritten

namespace Condition

variable {condition : Condition} {metrics : Metrics}

/-- An unknown metric is noted, together with the identifier. -/
theorem evaluate_of_metric {stored : Value} (unknown : condition.metric = .unrecognised stored) :
    condition.evaluate metrics = Sketch.note [condition.id, stored] := by
  simp only [evaluate, Sketch.ofCondition, Sketch.holds, Sketch.need, unknown, bind, Except.bind]

/-- An unknown comparison is noted, together with the identifier. -/
theorem evaluate_of_comparison {metric : Metric} {stored : Value}
    (named : condition.metric = .known metric)
    (unknown : condition.comparison = .unrecognised stored) :
    condition.evaluate metrics = Sketch.note [condition.id, stored] := by
  simp only [evaluate, Sketch.ofCondition, Sketch.holds, Sketch.need, named, unknown, bind,
    Except.bind]

/-- Where metric and comparison are known, the threshold is compared. -/
theorem evaluate_of_threshold {metric : Metric} {comparison : Comparison}
    (named : condition.metric = .known metric)
    (compared : condition.comparison = .known comparison) :
    condition.evaluate metrics =
      Sketch.compare comparison (metrics.value metric) condition.threshold := by
  simp only [evaluate, Sketch.ofCondition, Sketch.holds, Sketch.need, named, compared, bind,
    Except.bind]

/-- A condition about which nothing has to be noted is evaluated without a failure. -/
theorem Readable.evaluate_eq (readable : condition.Readable) (metrics : Metrics) :
    condition.evaluate metrics = .ok (condition.holds metrics) := by
  obtain ⟨⟨metric, named⟩, ⟨comparison, compared⟩, number, numbered⟩ := readable
  simp only [evaluate_of_threshold named compared, Sketch.compare, numbered, holds, named, compared]

/-- A condition about which something has to be noted does not hold. -/
theorem holds_of_unreadable (unreadable : ¬ condition.Readable) :
    condition.holds metrics = false := by
  unfold holds
  split
  · next named compared numbered =>
    exact (unreadable ⟨⟨_, named⟩, ⟨_, compared⟩, _, numbered⟩).elim
  · rfl

/-- Evaluating a condition comes to whether it holds, or fails in the one way. -/
theorem evaluate_cases (condition : Condition) (metrics : Metrics) :
    condition.evaluate metrics = .ok (condition.holds metrics) ∨
      condition.evaluate metrics = .error (.tooManyDigits none) := by
  by_cases readable : condition.Readable
  · exact .inl (readable.evaluate_eq metrics)
  · rw [holds_of_unreadable readable]
    cases named : condition.metric with
    | unrecognised stored =>
      rw [evaluate_of_metric named]
      exact Sketch.note_cases _
    | known metric =>
      cases compared : condition.comparison with
      | unrecognised stored =>
        rw [evaluate_of_comparison named compared]
        exact Sketch.note_cases _
      | known comparison =>
        have unnumbered : condition.threshold.number? = none := by
          refine Option.eq_none_iff_forall_ne_some.mpr fun number numbered => ?_
          exact readable ⟨⟨metric, named⟩, ⟨comparison, compared⟩, number, numbered⟩
        simp only [evaluate_of_threshold named compared, Sketch.compare, unnumbered]
        split
        · exact .inl rfl
        · exact Sketch.note_cases _

/-- A condition that holds is one about which nothing has to be noted. -/
theorem readable_of_holds (holds : condition.holds metrics = true) : condition.Readable := by
  refine Classical.byContradiction fun unreadable => ?_
  rw [holds_of_unreadable unreadable] at holds
  cases holds

/-- A condition is evaluated to true exactly if it holds. -/
theorem evaluate_true_iff :
    condition.evaluate metrics = .ok true ↔ condition.holds metrics = true := by
  constructor
  · intro evaluated
    rcases condition.evaluate_cases metrics with answered | failed
    · exact Except.ok.inj (answered.symm.trans evaluated)
    · rw [failed] at evaluated
      cases evaluated
  · intro holds
    rw [(readable_of_holds holds).evaluate_eq metrics, holds]

end Condition

/-! ## Groups -/

namespace ConditionGroup

variable {group : ConditionGroup} {metrics : Metrics}

/-- A group is evaluated from the outcomes of its conditions, if it is at all. -/
theorem evaluate_eq (group : ConditionGroup) (metrics : Metrics) :
    group.evaluate metrics = (do
      let outcomes ← group.conditions.mapM (·.evaluate metrics)
      pure (match group.junction with
        | .known .all => outcomes.all fun held => held
        | _ => outcomes.any fun held => held)) := by
  rw [evaluate, GroupSketch.ofGroup, GroupSketch.holds, GroupSketch.outcomes, List.mapM_map]
  rfl

/-- A group is evaluated to whether it holds where each of its conditions is. -/
theorem evaluate_ok
    (each : ∀ condition ∈ group.conditions,
      condition.evaluate metrics = .ok (condition.holds metrics)) :
    group.evaluate metrics = .ok (group.holds metrics) := by
  rw [evaluate_eq, mapM_ok each]
  simp only [bind, Except.bind, pure, Except.pure, holds, List.all_map, List.any_map]
  rfl

/-- Evaluating a group fails where evaluating one of its conditions does. -/
theorem evaluate_failed
    (one : ∃ condition ∈ group.conditions,
      condition.evaluate metrics = .error (.tooManyDigits none)) :
    group.evaluate metrics = .error (.tooManyDigits none) := by
  rw [evaluate_eq, mapM_failed (fun condition _ => condition.evaluate_cases metrics) one]
  rfl

/-- Evaluating a group comes to whether it holds, or fails in the one way. -/
theorem evaluate_cases (group : ConditionGroup) (metrics : Metrics) :
    group.evaluate metrics = .ok (group.holds metrics) ∨
      group.evaluate metrics = .error (.tooManyDigits none) := by
  by_cases one : ∃ condition ∈ group.conditions,
      condition.evaluate metrics = .error (.tooManyDigits none)
  · exact .inr (evaluate_failed one)
  · refine .inl (evaluate_ok fun condition member => ?_)
    exact (condition.evaluate_cases metrics).resolve_right fun failed =>
      one ⟨condition, member, failed⟩

end ConditionGroup

/-! ## Rules -/

namespace Rule

variable {rule : Rule} {metrics : Metrics}

/-- Nothing has to be noted about any condition of a rule. So it is of every rule that is made of a
draft, whether or not the draft was checked. -/
def Readable (rule : Rule) : Prop :=
  ∀ group ∈ rule.groups, ∀ condition ∈ group.conditions, condition.Readable

/-- A rule is evaluated from the outcomes of its groups, if it is at all. -/
theorem evaluate_eq (rule : Rule) (metrics : Metrics) :
    rule.evaluate metrics = (do
      let outcomes ← rule.groups.mapM (·.evaluate metrics)
      pure (outcomes.any fun held => held)) := by
  rw [evaluate, GroupSketch.someHolds, List.mapM_map]
  rfl

/-- A rule is evaluated to whether it is triggered where each of its groups is evaluated. -/
theorem evaluate_ok
    (each : ∀ group ∈ rule.groups, group.evaluate metrics = .ok (group.holds metrics)) :
    rule.evaluate metrics = .ok (rule.triggers metrics) := by
  rw [evaluate_eq, mapM_ok each]
  simp only [bind, Except.bind, pure, Except.pure, triggers, List.any_map]
  rfl

/-- Evaluating a rule fails where evaluating one of its groups does. -/
theorem evaluate_failed
    (one : ∃ group ∈ rule.groups, group.evaluate metrics = .error (.tooManyDigits none)) :
    rule.evaluate metrics = .error (.tooManyDigits none) := by
  rw [evaluate_eq, mapM_failed (fun group _ => group.evaluate_cases metrics) one]
  rfl

/-- A rule about which nothing has to be noted is evaluated without a failure, for every reading. -/
theorem Readable.evaluate_eq (readable : rule.Readable) (metrics : Metrics) :
    rule.evaluate metrics = .ok (rule.triggers metrics) :=
  evaluate_ok fun group member => ConditionGroup.evaluate_ok fun condition within =>
    (readable group member condition within).evaluate_eq metrics

/-- Evaluating a rule comes to whether it is triggered, or fails in the one way. -/
theorem evaluate_cases (rule : Rule) (metrics : Metrics) :
    rule.evaluate metrics = .ok (rule.triggers metrics) ∨
      rule.evaluate metrics = .error (.tooManyDigits none) := by
  by_cases one : ∃ group ∈ rule.groups, group.evaluate metrics = .error (.tooManyDigits none)
  · exact .inr (evaluate_failed one)
  · refine .inl (evaluate_ok fun group member => ?_)
    exact (group.evaluate_cases metrics).resolve_right fun failed => one ⟨group, member, failed⟩

/-- A rule that is evaluated to true is triggered. The converse needs that no other of its
conditions fails, so it holds of readable rules and not of all. -/
theorem triggers_of_evaluate (evaluated : rule.evaluate metrics = .ok true) :
    rule.triggers metrics = true := by
  rcases rule.evaluate_cases metrics with answered | failed
  · exact Except.ok.inj (answered.symm.trans evaluated)
  · rw [failed] at evaluated
    cases evaluated

end Rule

end AdRules

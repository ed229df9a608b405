import AdRules.Proofs.Checks
import AdRules.Proofs.Evaluations
import AdRules.Proofs.NumberLine
import AdRules.Proofs.Rechecks

/-!
# When a rule is triggered

A rule is triggered when one of its groups holds, a group joined by "all" when all of its conditions
hold and any other when one does, and a condition when the extended real that its metric denotes
stands in the relation it names to the one that its threshold denotes. This is said here of the
values that are stored, whatever they are. Evaluating them finds this out or fails, and it fails
exactly where a condition that cannot be compared would have to be noted in a line that cannot be
written, because an integer of more than `Text.mostDigits` digits stands in one of its values.
Values that are nested too deeply to be written are left outside.
-/

namespace AdRules

/-- A condition as it is stored: in each place a value of any shape, which nobody has checked. -/
structure RawCondition where
  id : Value
  groupId : Value
  metric : Value
  comparison : Value
  threshold : Value
  order : Value

/-- A group whose junction and conditions nobody has checked. What it is called and where it stands
does not matter to evaluation. -/
structure RawGroup where
  id : Option String
  ruleId : Option String
  junction : Value
  order : Int
  conditions : List RawCondition

namespace RawCondition

variable (raw : RawCondition) (metrics : Metrics)

/-- The values under the names of the fields they are stored in. -/
def fields : Fields :=
  [("id", raw.id), ("group_id", raw.groupId), ("metric", raw.metric),
   ("operator", raw.comparison), ("threshold", raw.threshold), ("order", raw.order)]

/-- The condition that is made of the values as they are. -/
def condition : Condition := Condition.unchecked raw.fields raw.order

/-- The values name a metric and a comparison, and the figure of the metric stands in that relation
to the threshold. Where one of the three says nothing, the condition does not hold. -/
def Holds : Prop :=
  ∃ metric comparison figure threshold,
    raw.metric = .text (Vocabulary.word metric) ∧
      raw.comparison = .text (Vocabulary.word comparison) ∧
      (metrics.value metric).extended? = some figure ∧
      raw.threshold.extended? = some threshold ∧
      Comparison.relation comparison figure threshold

end RawCondition

/-- An integer with more digits than are written stands in the value, itself or anywhere inside a
list or a record. -/
def Value.Overlong (value : Value) : Prop :=
  ∃ number ∈ value.integers, 10 ^ Text.mostDigits ≤ number.natAbs

/-- Something has to be noted about a condition that cannot be written: about a metric that is
unknown, about a comparison that is, or about a threshold that is no number and is to be put in
order with a figure. -/
inductive RawCondition.Unwritable (raw : RawCondition) (metrics : Metrics) : Prop where
  | metric (unknown : ∀ metric : Metric, raw.metric ≠ .text (Vocabulary.word metric))
      (long : raw.id.Overlong ∨ raw.metric.Overlong)
  | comparison (metric : Metric) (named : raw.metric = .text (Vocabulary.word metric))
      (unknown : ∀ comparison : Comparison, raw.comparison ≠ .text (Vocabulary.word comparison))
      (long : raw.id.Overlong ∨ raw.comparison.Overlong)
  | threshold (metric : Metric) (comparison : Comparison)
      (named : raw.metric = .text (Vocabulary.word metric))
      (compared : raw.comparison = .text (Vocabulary.word comparison))
      (ordered : comparison ≠ .equal) (unnumbered : raw.threshold.number? = none)
      (long : (metrics.value metric).toValue.Overlong ∨ raw.threshold.Overlong)

namespace RawGroup

variable (raw : RawGroup) (metrics : Metrics)

/-- The group that is made of the values as they are. -/
def group : ConditionGroup :=
  ⟨raw.id, raw.ruleId, Term.read raw.junction, raw.order, raw.conditions.map (·.condition)⟩

/-- The sketch of the group, evaluating which fails if a part is missing that is needed. -/
def sketch : GroupSketch :=
  ⟨Term.read raw.junction, raw.conditions.map fun condition => Sketch.ofFields condition.fields⟩

/-- With the junction "AND" all conditions hold, with anything else in its place one does. -/
def Holds : Prop :=
  (raw.junction = .text "AND" ∧ ∀ condition ∈ raw.conditions, condition.Holds metrics) ∨
    (raw.junction ≠ .text "AND" ∧ ∃ condition ∈ raw.conditions, condition.Holds metrics)

end RawGroup

/-! ## Conditions -/

variable {metrics : Metrics}

/-- A condition holds when everything in it is known and the comparison of numbers holds. -/
theorem Condition.holds_iff (condition : Condition) :
    condition.holds metrics = true ↔
      ∃ metric comparison threshold, condition.metric = .known metric ∧
        condition.comparison = .known comparison ∧ condition.threshold.number? = some threshold ∧
        Comparison.compares comparison (metrics.value metric) threshold = true := by
  unfold holds
  split
  · next metric comparison threshold named compared numbered =>
    simp [named, compared, numbered]
  · next unmatched =>
    simp only [Bool.false_eq_true, false_iff]
    rintro ⟨metric, comparison, threshold, named, compared, numbered, -⟩
    exact unmatched metric comparison threshold named compared numbered

/-- A condition made of stored values holds exactly when these say so. -/
theorem RawCondition.holds_iff (raw : RawCondition) :
    raw.condition.holds metrics = true ↔ raw.Holds metrics := by
  have metricRead : raw.condition.metric = Term.read raw.metric := rfl
  have comparisonRead : raw.condition.comparison = Term.read raw.comparison := rfl
  have thresholdKept : raw.condition.threshold = raw.threshold := rfl
  rw [Condition.holds_iff, metricRead, comparisonRead, thresholdKept]
  simp only [Vocabulary.read_known_iff, Comparison.compares_iff, Holds, Value.extended?_eq,
    Vocabulary.toValue, Option.bind_eq_some_iff]
  constructor
  · rintro ⟨metric, comparison, number, named, compared, numbered, figure, bound, figured, bounded,
      related⟩
    exact ⟨metric, comparison, figure, bound, named, compared, figured, ⟨number, numbered, bounded⟩,
      related⟩
  · rintro ⟨metric, comparison, figure, bound, named, compared, figured,
      ⟨number, numbered, bounded⟩, related⟩
    exact ⟨metric, comparison, number, named, compared, numbered, figure, bound, figured, bounded,
      related⟩

/-! ### Lines that cannot be written -/

/-- An integer cannot be written exactly where it has too many digits. -/
theorem Text.unwritable_iff (number : Int) :
    isWritable number = false ↔ 10 ^ mostDigits ≤ number.natAbs := by
  rw [isWritable, tenTo, Nat.pow_eq, decide_eq_false_iff_not, Nat.not_lt]

/-- A value cannot be written exactly where an integer in it is too long. -/
theorem Value.unwritable_iff (value : Value) : value.isWritable = false ↔ value.Overlong := by
  simp [isWritable, Overlong, List.all_eq_false, Text.unwritable_iff]

/-- A line about two values cannot be written exactly where one of them cannot. -/
theorem Sketch.pair_failed_iff (first second : Value) :
    note [first, second] = .error (.tooManyDigits none) ↔ first.Overlong ∨ second.Overlong := by
  simp [note_failed_iff, Value.unwritable_iff]

/-- A value is the word of a member, and read as it, or the word of none, and kept. -/
theorem Vocabulary.read_cases {α : Type} [Vocabulary α] [Vocabulary.Lawful α] (value : Value) :
    (∃ member : α, value = .text (word member) ∧ Term.read value = .known member) ∨
      (∀ member : α, value ≠ .text (word member)) ∧
        (Term.read value : Term α) = .unrecognised value := by
  cases named : ofValue? (α := α) value with
  | some member =>
    exact .inl ⟨member, (of_value_iff value member).mp named, by simp only [Term.read, named]⟩
  | none =>
    refine .inr ⟨fun member same => ?_, by simp only [Term.read, named]⟩
    rw [(of_value_iff value member).mpr same] at named
    cases named

/-- Comparing fails exactly where a figure is to be put in order with a threshold that is no number
and one of the two cannot be written. -/
theorem Sketch.compare_failed_iff (comparison : Comparison) (figure : Number) (threshold : Value) :
    compare comparison figure threshold = .error (.tooManyDigits none) ↔
      comparison ≠ .equal ∧ threshold.number? = none ∧
        (figure.toValue.Overlong ∨ threshold.Overlong) := by
  unfold compare
  split
  · next numbered => simp [numbered]
  · next unnumbered =>
    split
    · next equal => simp [equal]
    · next ordered => simp [ordered, unnumbered, pair_failed_iff]

/-- Where two members have one word they are one. -/
theorem Vocabulary.word_injective {α : Type} [Vocabulary α] [Vocabulary.Lawful α] {value : Value}
    {member other : α} (named : value = .text (word member)) (also : value = .text (word other)) :
    member = other := by
  have read := (of_value_iff value member).mpr named
  exact Option.some.inj (read.symm.trans ((of_value_iff value other).mpr also))

namespace RawCondition

variable {raw : RawCondition} {metric : Metric} {comparison : Comparison}

/-- About a condition with an unknown metric the first of the lines is written, and no other. -/
theorem unwritable_of_metric
    (nameless : ∀ metric : Metric, raw.metric ≠ .text (Vocabulary.word metric)) :
    raw.Unwritable metrics ↔ raw.id.Overlong ∨ raw.metric.Overlong := by
  constructor
  · rintro (⟨_, long⟩ | ⟨metric, named, _, _⟩ | ⟨metric, _, named, _, _, _, _⟩)
    · exact long
    · exact (nameless metric named).elim
    · exact (nameless metric named).elim
  · exact .metric nameless

/-- About a condition with a known metric and an unknown comparison the second line is written. -/
theorem unwritable_of_comparison (named : raw.metric = .text (Vocabulary.word metric))
    (unrelated : ∀ comparison : Comparison, raw.comparison ≠ .text (Vocabulary.word comparison)) :
    raw.Unwritable metrics ↔ raw.id.Overlong ∨ raw.comparison.Overlong := by
  constructor
  · rintro (⟨nameless, _⟩ | ⟨_, _, _, long⟩ | ⟨_, comparison, _, compared, _, _, _⟩)
    · exact (nameless metric named).elim
    · exact long
    · exact (unrelated comparison compared).elim
  · exact .comparison metric named unrelated

/-- Where metric and comparison are known, only the line about the threshold is left to be
written. -/
theorem unwritable_of_threshold (named : raw.metric = .text (Vocabulary.word metric))
    (compared : raw.comparison = .text (Vocabulary.word comparison)) :
    raw.Unwritable metrics ↔ comparison ≠ .equal ∧ raw.threshold.number? = none ∧
      ((metrics.value metric).toValue.Overlong ∨ raw.threshold.Overlong) := by
  constructor
  · rintro (⟨nameless, _⟩ | ⟨_, _, unrelated, _⟩ |
      ⟨other, relation, otherNamed, otherCompared, ordered, unnumbered, long⟩)
    · exact (nameless metric named).elim
    · exact (unrelated comparison compared).elim
    · obtain rfl := Vocabulary.word_injective named otherNamed
      obtain rfl := Vocabulary.word_injective compared otherCompared
      exact ⟨ordered, unnumbered, long⟩
  · rintro ⟨ordered, unnumbered, long⟩
    exact .threshold metric comparison named compared ordered unnumbered long

end RawCondition

/-- Evaluating a condition made of stored values fails exactly where a line about it cannot be
written. The cases are those of evaluation: the first part that is unknown is the one that is
noted. -/
theorem RawCondition.evaluate_failed_iff (raw : RawCondition) :
    raw.condition.evaluate metrics = .error (.tooManyDigits none) ↔ raw.Unwritable metrics := by
  rcases Vocabulary.read_cases (α := Metric) raw.metric with
    ⟨metric, named, metricRead⟩ | ⟨nameless, metricRead⟩
  · rcases Vocabulary.read_cases (α := Comparison) raw.comparison with
      ⟨comparison, compared, comparisonRead⟩ | ⟨unrelated, comparisonRead⟩
    · have evaluated : raw.condition.evaluate metrics =
          Sketch.compare comparison (metrics.value metric) raw.threshold :=
        Condition.evaluate_of_threshold metricRead comparisonRead
      rw [evaluated, Sketch.compare_failed_iff, unwritable_of_threshold named compared]
    · have evaluated : raw.condition.evaluate metrics = Sketch.note [raw.id, raw.comparison] :=
        Condition.evaluate_of_comparison metricRead comparisonRead
      rw [evaluated, Sketch.pair_failed_iff, unwritable_of_comparison named unrelated]
  · have evaluated : raw.condition.evaluate metrics = Sketch.note [raw.id, raw.metric] :=
      Condition.evaluate_of_metric metricRead
    rw [evaluated, Sketch.pair_failed_iff, unwritable_of_metric nameless]

/-- Where nothing has to be noted that cannot be written, a condition is evaluated to whether it
holds. -/
theorem RawCondition.evaluate_ok (raw : RawCondition) (writable : ¬ raw.Unwritable metrics) :
    raw.condition.evaluate metrics = .ok (raw.condition.holds metrics) :=
  (raw.condition.evaluate_cases metrics).resolve_right fun failed =>
    writable (raw.evaluate_failed_iff.mp failed)

/-- Nothing has to be noted about a condition whose metric and comparison are known and whose
threshold is a number, infinite or not-a-number included. So it is free of the failure for every
reading, however large the figures are. -/
theorem RawCondition.writable_of_readable {raw : RawCondition} {metric : Metric}
    {comparison : Comparison} {threshold : Number}
    (named : raw.metric = .text (Vocabulary.word metric))
    (compared : raw.comparison = .text (Vocabulary.word comparison))
    (numbered : raw.threshold.number? = some threshold) : ¬ raw.Unwritable metrics := by
  rw [unwritable_of_threshold named compared]
  rintro ⟨_, unnumbered, _⟩
  rw [numbered] at unnumbered
  cases unnumbered

/-- Nor does evaluation fail where every integer that a line could show is short enough, in the
condition and in the reading, whether or not the condition makes sense. -/
theorem RawCondition.writable_of_short {raw : RawCondition}
    (figures : ∀ metric, ¬ (metrics.value metric).toValue.Overlong) (id : ¬ raw.id.Overlong)
    (metric : ¬ raw.metric.Overlong) (comparison : ¬ raw.comparison.Overlong)
    (threshold : ¬ raw.threshold.Overlong) : ¬ raw.Unwritable metrics := by
  rintro (⟨_, long⟩ | ⟨_, _, _, long⟩ | ⟨figure, _, _, _, _, _, long⟩)
  · exact long.elim id metric
  · exact long.elim id comparison
  · exact long.elim (figures figure) threshold

/-! ## Groups and rules -/

/-- A group made of stored values holds exactly when these say so. -/
theorem RawGroup.holds_iff (raw : RawGroup) :
    raw.group.holds metrics = true ↔ raw.Holds metrics := by
  have joinsAll : Term.read raw.junction = .known Junction.all ↔ raw.junction = .text "AND" :=
    Vocabulary.read_known_iff raw.junction Junction.all
  unfold ConditionGroup.holds Holds
  split
  · next all =>
    have named : raw.junction = .text "AND" := joinsAll.mp all
    simp [group, named, RawCondition.holds_iff]
  · next other =>
    have unnamed : raw.junction ≠ .text "AND" := fun named => other (joinsAll.mpr named)
    simp [group, unnamed, RawCondition.holds_iff]

/-- Something that has to be noted about a condition of the group cannot be written. -/
def RawGroup.Unwritable (raw : RawGroup) (metrics : Metrics) : Prop :=
  ∃ condition ∈ raw.conditions, condition.Unwritable metrics

/-- Where nothing is missing the sketch of a group is that of the group made of its values. -/
theorem RawGroup.sketch_eq (raw : RawGroup) : raw.sketch = GroupSketch.ofGroup raw.group := by
  simp only [sketch, GroupSketch.ofGroup, group, List.map_map]
  rfl

/-- A group made of stored values is evaluated to whether it holds, unless a line about one of its
conditions cannot be written; then its evaluation fails. -/
theorem RawGroup.evaluated (raw : RawGroup) (metrics : Metrics) :
    (raw.Unwritable metrics → raw.group.evaluate metrics = .error (.tooManyDigits none)) ∧
      (¬ raw.Unwritable metrics → raw.group.evaluate metrics = .ok (raw.group.holds metrics)) := by
  constructor
  · rintro ⟨condition, member, unwritable⟩
    exact ConditionGroup.evaluate_failed
      ⟨condition.condition, List.mem_map_of_mem member,
        condition.evaluate_failed_iff.mpr unwritable⟩
  · intro writable
    refine ConditionGroup.evaluate_ok fun condition member => ?_
    obtain ⟨stored, listed, rfl⟩ := List.mem_map.mp member
    exact stored.evaluate_ok fun unwritable => writable ⟨stored, listed, unwritable⟩

/-- A rule whose groups are made of stored values is triggered exactly when one of these holds. -/
theorem Rule.triggers_iff (rule : Rule) (groups : List RawGroup) :
    { rule with groups := groups.map RawGroup.group }.triggers metrics = true ↔
      ∃ group ∈ groups, group.Holds metrics := by
  simp [triggers, RawGroup.holds_iff]

/-- A rule whose groups are made of stored values is evaluated to whether it is triggered, unless a
line about a condition in one of its groups cannot be written; then its evaluation fails, even where
another group holds. -/
theorem Rule.evaluated (rule : Rule) (groups : List RawGroup) (metrics : Metrics) :
    let stored := { rule with groups := groups.map RawGroup.group }
    ((∃ group ∈ groups, group.Unwritable metrics) →
        stored.evaluate metrics = .error (.tooManyDigits none)) ∧
      ((¬ ∃ group ∈ groups, group.Unwritable metrics) →
        stored.evaluate metrics = .ok (stored.triggers metrics)) := by
  constructor
  · rintro ⟨group, member, unwritable⟩
    exact evaluate_failed
      ⟨group.group, List.mem_map_of_mem member, (group.evaluated metrics).1 unwritable⟩
  · intro writable
    refine evaluate_ok fun group member => ?_
    obtain ⟨raw, listed, rfl⟩ := List.mem_map.mp member
    exact (raw.evaluated metrics).2 fun unwritable => writable ⟨raw, listed, unwritable⟩

/-- Where triggering carries over from one rule and reading to another, so does being evaluated to
true, unless a line about a condition of the second rule cannot be written: then that one is not
evaluated at all. -/
theorem Rule.evaluated_follows {rule : Rule} {groups followers : List RawGroup}
    {metrics other : Metrics}
    (follows : { rule with groups := groups.map RawGroup.group }.triggers metrics = true →
      { rule with groups := followers.map RawGroup.group }.triggers other = true)
    (writable : ¬ ∃ group ∈ followers, group.Unwritable other)
    (evaluated : { rule with groups := groups.map RawGroup.group }.evaluate metrics = .ok true) :
    { rule with groups := followers.map RawGroup.group }.evaluate other = .ok true := by
  rw [(rule.evaluated followers other).2 writable, follows (triggers_of_evaluate evaluated)]

/-! ## What was checked -/

/-- A term that has passed the check is the reading of a value. -/
theorem Term.checked_read {α : Type} [Vocabulary α] {label : String} {input : Value} {term : Term α}
    (valid : Term.check label input = .valid term) : term = Term.read input := by
  cases input with
  | text content => exact (Checked.valid.inj valid).symm
  | null | bool _ | int _ | float _ | time _ | list _ | record _ => cases valid

/-- A condition that has passed the check is one made of values. -/
theorem Condition.checked_raw {fields : Fields} {condition : Condition}
    (valid : Condition.ofFields fields = .valid condition) :
    ∃ raw : RawCondition, condition = raw.condition := by
  obtain ⟨_, order, upToThreshold, _, rfl⟩ := Checked.seq_valid.mp valid
  obtain ⟨_, threshold, upToComparison, _, rfl⟩ := Checked.seq_valid.mp upToThreshold
  obtain ⟨_, comparison, upToMetric, comparisonGiven, rfl⟩ := Checked.seq_valid.mp upToComparison
  obtain ⟨_, metric, upToGroup, metricGiven, rfl⟩ := Checked.seq_valid.mp upToMetric
  obtain ⟨_, groupId, upToId, _, rfl⟩ := Checked.seq_valid.mp upToGroup
  obtain ⟨id, _, rfl⟩ := Checked.map_valid.mp upToId
  obtain ⟨comparisonStored, comparisonPassed⟩ := Checked.required_valid comparisonGiven
  obtain ⟨metricStored, metricPassed⟩ := Checked.required_valid metricGiven
  rw [Term.checked_read comparisonPassed, Term.checked_read metricPassed]
  exact ⟨⟨.ofText? id, .ofText? groupId, metricStored, comparisonStored, .float threshold,
    .int order⟩, rfl⟩

/-- The extended real that a double denotes is there and not negative. -/
def Double.Nonnegative (value : Double) : Prop :=
  ∃ figure, value.extended? = some figure ∧ 0 ≤ figure

/-- An amount that has passed the check, or is zero in its absence, is not negative. -/
theorem amount_nonnegative {fields : Fields} {name : String} {amount : Double}
    (valid : Checked.optional fields name .zero Check.amount = .valid amount) :
    amount.Nonnegative := by
  obtain ⟨level, placed, above⟩ := optional_amount valid
  refine ⟨level.extended, by rw [Double.extended?_eq, placed, Option.map_some], ?_⟩
  simpa [Level.extended] using (Level.le_iff (.exact 0) level).mp above

/-- Every figure of a reading that has passed the check denotes an extended real, none of which is
negative. -/
theorem Metrics.checked_nonnegative {fields : Fields} {metrics : Metrics}
    (valid : Metrics.ofFields fields = .valid metrics) (metric : Metric) :
    ∃ figure, (metrics.value metric).extended? = some figure ∧ 0 ≤ figure := by
  have passed := Metrics.of_fields_iff.mp valid metric
  by_cases counted : metric.isCount = true
  · rw [Metric.checked, if_pos counted] at passed
    obtain ⟨count, _, same⟩ := Checked.map_valid.mp passed
    rw [← same]
    exact ⟨_, rfl, by simp⟩
  · rw [Metric.checked, if_neg counted] at passed
    obtain ⟨amount, given, same⟩ := Checked.map_valid.mp passed
    rw [← same]
    exact amount_nonnegative given

/-! ## The meaning -/

/-- Whatever is stored, evaluating a condition, a group or a rule comes to what the stored values
say of the extended reals that they denote, with one exception: where a condition cannot be compared
and an integer of too many digits stands in a value that is written about it, evaluating it fails,
and with it every group and rule that it is in. Sketches in which nothing is missing are evaluated
alike. Conditions that were checked are among those made of stored values, and a reading that was
checked denotes a nonnegative extended real for every metric. -/
theorem triggers_exactly (rule : Rule) (groups : List RawGroup) (metrics : Metrics) :
    (∀ raw : RawCondition,
      (Sketch.ofFields raw.fields).holds metrics = raw.condition.evaluate metrics ∧
        (raw.Unwritable metrics →
          raw.condition.evaluate metrics = .error (.tooManyDigits none)) ∧
        (¬ raw.Unwritable metrics →
          raw.condition.evaluate metrics = .ok (raw.condition.holds metrics)) ∧
        (raw.condition.holds metrics = true ↔ raw.Holds metrics)) ∧
      (∀ raw : RawGroup,
        raw.sketch.holds metrics = raw.group.evaluate metrics ∧
          (raw.Unwritable metrics → raw.group.evaluate metrics = .error (.tooManyDigits none)) ∧
          (¬ raw.Unwritable metrics →
            raw.group.evaluate metrics = .ok (raw.group.holds metrics)) ∧
          (raw.group.holds metrics = true ↔ raw.Holds metrics)) ∧
      (let stored := { rule with groups := groups.map RawGroup.group }
       GroupSketch.someHolds (groups.map RawGroup.sketch) metrics = stored.evaluate metrics ∧
        ((∃ group ∈ groups, group.Unwritable metrics) →
          stored.evaluate metrics = .error (.tooManyDigits none)) ∧
        ((¬ ∃ group ∈ groups, group.Unwritable metrics) →
          stored.evaluate metrics = .ok (stored.triggers metrics)) ∧
        (stored.triggers metrics = true ↔ ∃ group ∈ groups, group.Holds metrics)) ∧
      (∀ (fields : Fields) (condition : Condition), Condition.ofFields fields = .valid condition →
        ∃ raw : RawCondition, condition = raw.condition) ∧
      ∀ fields : Fields, Metrics.ofFields fields = .valid metrics →
        ∀ metric, ∃ figure, (metrics.value metric).extended? = some figure ∧ 0 ≤ figure := by
  refine ⟨?_, ?_, ?_, ?_, ?_⟩
  · intro raw
    exact ⟨rfl, raw.evaluate_failed_iff.mpr, raw.evaluate_ok, raw.holds_iff⟩
  · intro raw
    have same : raw.sketch.holds metrics = raw.group.evaluate metrics := by
      rw [raw.sketch_eq, ConditionGroup.evaluate]
    exact ⟨same, (raw.evaluated metrics).1, (raw.evaluated metrics).2, raw.holds_iff⟩
  · intro stored
    have same : GroupSketch.someHolds (groups.map RawGroup.sketch) metrics =
        stored.evaluate metrics := by
      rw [Rule.evaluate, List.map_map, List.map_congr_left fun raw _ => raw.sketch_eq]
      rfl
    exact ⟨same, (rule.evaluated groups metrics).1, (rule.evaluated groups metrics).2,
      rule.triggers_iff groups⟩
  · intro fields condition valid
    exact Condition.checked_raw valid
  · intro fields valid
    exact Metrics.checked_nonnegative valid

/-- More clicks than the double nearest to their number. -/
def sampleCondition : RawCondition :=
  ⟨.null, .null, .text "clicks", .text "gt",
    .float (Double.ofInt 9007199254740992), .list []⟩

/-- Clicks that are compared with a threshold that is no number. -/
def senselessCondition : RawCondition :=
  ⟨.text "c1", .text "g1", .text "clicks", .text "gt", .text "abc", .int 0⟩

/-- A reading of nothing but clicks, the least number of them that cannot be written. -/
def vastReading : Metrics :=
  ⟨.zero, 10 ^ Text.mostDigits, 0, 0, 0, .zero, .zero, .zero, .zero⟩

/-- A reading of nothing but one click more than a double can tell from one less. -/
def crowdedReading : Metrics :=
  ⟨.zero, 9007199254740993, 0, 0, 0, .zero, .zero, .zero, .zero⟩

/-- A group of the condition that can be evaluated. -/
def sampleGroup : RawGroup := ⟨some "g1", some "r1", .text "AND", 0, [sampleCondition]⟩

/-- A group of the condition that makes no sense. -/
def senselessGroup : RawGroup := ⟨some "g2", some "r1", .text "AND", 0, [senselessCondition]⟩

/-- A rule that watches the clicks, still without groups. -/
def clicksRule : Rule :=
  ⟨"Clicks", none, .sendNotification, none, "r1", true, 0, none, none, none, none, [], none⟩

/-- The least number of clicks that cannot be written cannot be noted. -/
theorem senseless_unwritable : senselessCondition.Unwritable vastReading :=
  .threshold .clicks .greater rfl rfl (by decide) rfl
    (.inl ⟨_, List.mem_singleton_self _, Nat.le_refl _⟩)

/-- Something that has to be noted about a group cannot be written where that is so of its one
condition. -/
theorem senseless_group_unwritable : senselessGroup.Unwritable vastReading :=
  ⟨senselessCondition, List.mem_singleton_self _, senseless_unwritable⟩

/-- Nothing has to be noted about the condition that compares clicks with a number. -/
theorem sample_writable : ¬ sampleCondition.Unwritable crowdedReading := by
  have named : sampleCondition.metric = .text (Vocabulary.word Metric.clicks) := rfl
  have compared : sampleCondition.comparison = .text (Vocabulary.word Comparison.greater) := rfl
  exact RawCondition.writable_of_readable named compared rfl

/-- A condition about which a line would have to be written that cannot be, one that can be
evaluated and holds by a single click, a rule of each, a checked condition that is made of values,
and the extended real of a checked figure. -/
theorem sample_triggers :
    senselessCondition.condition.evaluate vastReading = .error (.tooManyDigits none) ∧
      (sampleCondition.condition.evaluate crowdedReading =
          .ok (sampleCondition.condition.holds crowdedReading) ∧
        sampleCondition.Holds crowdedReading) ∧
      { clicksRule with groups := [senselessGroup.group] }.evaluate vastReading =
        .error (.tooManyDigits none) ∧
      { clicksRule with groups := [sampleGroup.group] }.evaluate crowdedReading = .ok true ∧
      (∃ raw : RawCondition,
        ⟨.null, .null, .unrecognised (.text "likes"), .known .equal, .float .zero, .int 0⟩ =
          raw.condition) ∧
      ∃ figure, (Number.int 9007199254740993).extended? = some figure ∧ 0 ≤ figure := by
  obtain ⟨refusing, -, ruleRefused, -⟩ :=
    triggers_exactly clicksRule [senselessGroup] vastReading
  obtain ⟨holding, -, ⟨-, -, ruleEvaluated, ruleMeant⟩, checkedRaw, checkedFigures⟩ :=
    triggers_exactly clicksRule [sampleGroup] crowdedReading
  have holds : sampleCondition.Holds crowdedReading :=
    (holding sampleCondition).2.2.2.mp (by decide +kernel)
  have triggered := ruleMeant.mpr ⟨sampleGroup, List.mem_singleton_self _, .inl ⟨rfl, by
    simpa [sampleGroup] using holds⟩⟩
  refine ⟨(refusing senselessCondition).2.1 senseless_unwritable,
    ⟨(holding sampleCondition).2.2.1 sample_writable, holds⟩, ?_, ?_, ?_, ?_⟩
  · exact ruleRefused.2.1
      ⟨senselessGroup, List.mem_singleton_self _, senseless_group_unwritable⟩
  · refine (ruleEvaluated ?_).trans (congrArg Except.ok triggered)
    rintro ⟨group, listed, condition, within, unwritable⟩
    obtain rfl := List.mem_singleton.mp listed
    obtain rfl := List.mem_singleton.mp within
    exact sample_writable unwritable
  · exact checkedRaw
      [("metric", .text "likes"), ("operator", .text "eq"), ("threshold", .float .zero)] _ rfl
  · exact checkedFigures [("clicks", .int 9007199254740993)] rfl .clicks

/-- A condition, a group of it and a rule of that group, none of which can be evaluated: the
threshold is no number, and the line that would say so cannot be written. -/
theorem evaluation_fails :
    (¬ ∀ (raw : RawCondition) (metrics : Metrics),
      ∃ outcome, raw.condition.evaluate metrics = .ok outcome) ∧
      (¬ ∀ (raw : RawGroup) (metrics : Metrics),
        ∃ outcome, raw.group.evaluate metrics = .ok outcome) ∧
      ¬ ∀ (rule : Rule) (metrics : Metrics), ∃ outcome, rule.evaluate metrics = .ok outcome := by
  refine ⟨fun always => ?_, fun always => ?_, fun always => ?_⟩
  · obtain ⟨outcome, evaluated⟩ := always senselessCondition vastReading
    rw [senselessCondition.evaluate_failed_iff.mpr senseless_unwritable] at evaluated
    cases evaluated
  · obtain ⟨outcome, evaluated⟩ := always senselessGroup vastReading
    rw [(senselessGroup.evaluated vastReading).1 senseless_group_unwritable] at evaluated
    cases evaluated
  · obtain ⟨outcome, evaluated⟩ :=
      always { clicksRule with groups := [senselessGroup.group] } vastReading
    have failed := (clicksRule.evaluated [senselessGroup] vastReading).1
      ⟨senselessGroup, List.mem_singleton_self _, senseless_group_unwritable⟩
    cases failed.symm.trans evaluated

end AdRules

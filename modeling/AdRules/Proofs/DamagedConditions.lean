import AdRules.Proofs.Refusals
import AdRules.Proofs.RowReading
import AdRules.Proofs.TriggerMeaning

/-!
# Damaged conditions

A row whose metric, comparison or threshold cannot be read becomes a damaged condition, which never
holds. A row can also be damaged in its identifiers or its order alone. Then it keeps a metric, a
comparison and a threshold that evaluation understands, and it holds whenever these say so. Either
way the damage is noted under the identifier of the row, so a damaged row whose identifier cannot be
written is not read at all.
-/

namespace AdRules.StoredCondition

/-- The metric and the comparison of a row are known, and its threshold can be read as a double. -/
structure Legible (row : Fields) : Prop where
  metric : ∃ metric : Metric, row.getD "metric" = Vocabulary.toValue metric
  comparison : ∃ comparison : Comparison, row.getD "operator" = Vocabulary.toValue comparison
  threshold : ∃ threshold, storedThreshold? (row.getD "threshold") = .ok (some threshold)

/-- The identifiers of a row are texts where they are given, and its order is an integer. -/
structure Placed (row : Fields) : Prop where
  id : ∃ id, row.getD "id" = .ofText? id
  groupId : ∃ groupId, row.getD "group_id" = .ofText? groupId
  order : ∃ position, Check.int (orderOf row) = .valid position

/-- The values of a row that a damaged condition keeps. -/
def kept (row : Fields) : RawCondition :=
  ⟨row.getD "id", row.getD "group_id", row.getD "metric", row.getD "operator",
    row.getD "threshold", orderOf row⟩

variable {row : Fields}

/-- What a row is kept as when it cannot be read is made of its values. -/
theorem kept_condition (row : Fields) :
    Condition.unchecked row (orderOf row) = (kept row).condition := rfl

/-- A damaged row is kept where its identifier can be written. -/
theorem keep_ok (writable : ¬ (row.getD "id").Overlong) :
    keep row = .ok (.damaged (kept row).condition) := by
  rw [← Value.unwritable_iff, Bool.not_eq_false] at writable
  rw [keep, if_pos writable, kept_condition]

/-- A damaged row is not read where its identifier cannot be written. -/
theorem keep_refused (overlong : (row.getD "id").Overlong) :
    keep row = .error (.tooManyDigits none) := by
  rw [← Value.unwritable_iff] at overlong
  rw [keep, overlong, if_neg Bool.false_ne_true]

/-- What is kept of a row is damaged and made of its values. -/
theorem kept_of_keep {stored : StoredCondition} (read : keep row = .ok stored) :
    stored = .damaged (kept row).condition := by
  by_cases overlong : (row.getD "id").Overlong
  · rw [keep_refused overlong] at read
    cases read
  · rw [keep_ok overlong] at read
    exact (Except.ok.inj read).symm

/-- A damaged condition keeps the values of its row. -/
theorem damaged_kept {condition : Condition} (damaged : ofRow row = .ok (.damaged condition)) :
    condition = (kept row).condition := by
  have kept : keep row = .ok (.damaged condition) := by
    simp only [ofRow] at damaged
    repeat' split at damaged
    all_goals first | exact damaged | cases damaged
  exact StoredCondition.damaged.inj (kept_of_keep kept)

/-! ## Rows that can be read -/

/-- A known word in a column is found there. -/
theorem word_read {α : Type} [Vocabulary α] [Vocabulary.Lawful α] {name : String} {member : α}
    (named : row.getD name = Vocabulary.toValue member) :
    (row.get? name).bind Vocabulary.ofValue? = some member := by
  have given : row.get? name = some (Vocabulary.toValue member) := by
    cases stored : row.get? name with
    | none => simp [Fields.getD, stored, Vocabulary.toValue] at named
    | some value => simpa [Fields.getD, stored] using named
  rw [given]
  exact (Vocabulary.of_value_iff _ member).mpr rfl

/-- Where the metric and the comparison are known, the threshold decides how the row is read. -/
theorem named_row_read {metric : Metric} {comparison : Comparison}
    (metricNamed : row.getD "metric" = Vocabulary.toValue metric)
    (comparisonNamed : row.getD "operator" = Vocabulary.toValue comparison) :
    ofRow row =
      match storedThreshold? (row.getD "threshold") with
      | .error failure => .error failure
      | .ok none => keep row
      | .ok (some threshold) =>
        match checked row metric comparison threshold with
        | .valid condition => .ok (.sound condition)
        | .invalid _ => keep row := by
  simp only [ofRow, word_read metricNamed, word_read comparisonNamed]
  cases stored : row.get? "threshold" with
  | none =>
    have absent : row.getD "threshold" = .null := by rw [Fields.getD, stored]; rfl
    have illegible : storedThreshold? .null = .ok none := rfl
    simp only [Option.map_none, absent, illegible]
  | some value =>
    have present : row.getD "threshold" = value := by rw [Fields.getD, stored]; rfl
    simp only [Option.map_some, present]
    rcases storedThreshold? value with failure | _ | threshold
    all_goals rfl

/-- A value passes as a text that may be missing exactly when it is one. -/
theorem nullable_text_iff {input : Value} {content : Option String} :
    Checked.nullable Check.text input = .valid content ↔ input = .ofText? content := by
  constructor
  · intro valid
    cases input with
    | null =>
      cases valid
      rfl
    | text given =>
      cases valid
      rfl
    | bool _ | int _ | float _ | time _ | list _ | record _ => cases valid
  · rintro rfl
    exact nullable_text content

/-- A row whose words and threshold are sound passes the check exactly when it is placed. -/
theorem checked_iff (metric : Metric) (comparison : Comparison) (threshold : Double) :
    (∃ condition, checked row metric comparison threshold = .valid condition) ↔ Placed row := by
  constructor
  · rintro ⟨condition, valid⟩
    obtain ⟨_, position, upToThreshold, ordered, _⟩ := Checked.seq_valid.mp valid
    obtain ⟨_, _, upToComparison, _, _⟩ := Checked.seq_valid.mp upToThreshold
    obtain ⟨_, _, upToMetric, _, _⟩ := Checked.seq_valid.mp upToComparison
    obtain ⟨_, _, upToGroup, _, _⟩ := Checked.seq_valid.mp upToMetric
    obtain ⟨_, groupId, upToId, grouped, _⟩ := Checked.seq_valid.mp upToGroup
    obtain ⟨id, named, _⟩ := Checked.map_valid.mp upToId
    exact
      { id := ⟨id, nullable_text_iff.mp (Checked.under_valid.mp named)⟩
        groupId := ⟨groupId, nullable_text_iff.mp (Checked.under_valid.mp grouped)⟩
        order := ⟨position, Checked.under_valid.mp ordered⟩ }
  · rintro ⟨⟨id, named⟩, ⟨groupId, grouped⟩, position, ordered⟩
    refine ⟨⟨.ofText? id, .ofText? groupId, .known metric, .known comparison, .float threshold,
      .int position⟩, ?_⟩
    unfold checked Condition.ofFields
    rw [optional_given rfl (nullable_text_iff.mpr named),
      optional_given rfl (nullable_text_iff.mpr grouped),
      required_given rfl (term_check _ metric),
      required_given rfl (term_check _ comparison),
      optional_given rfl ordered]
    rfl

/-- A legible row that is placed is read as a sound condition. -/
theorem legible_placed (legible : Legible row) (placed : Placed row) :
    ∃ condition, ofRow row = .ok (.sound condition) := by
  obtain ⟨⟨metric, metricNamed⟩, ⟨comparison, comparisonNamed⟩, threshold, thresholdRead⟩ := legible
  obtain ⟨condition, passed⟩ := (checked_iff metric comparison threshold).mpr placed
  refine ⟨condition, ?_⟩
  rw [named_row_read metricNamed comparisonNamed, thresholdRead]
  simp only [passed]

/-- A legible row that is not placed is kept as damaged, if it can be. -/
theorem legible_displaced (legible : Legible row) (displaced : ¬ Placed row) :
    ofRow row = keep row := by
  obtain ⟨⟨metric, metricNamed⟩, ⟨comparison, comparisonNamed⟩, threshold, thresholdRead⟩ := legible
  rw [named_row_read metricNamed comparisonNamed, thresholdRead]
  rw [← checked_iff metric comparison threshold] at displaced
  cases passed : checked row metric comparison threshold with
  | valid condition => exact (displaced ⟨condition, passed⟩).elim
  | invalid issues => simp only [passed]

/-- What is read as no number denotes none. -/
theorem unread_denotes_nothing (value : Value) :
    storedThreshold? value = .ok none → value.extended? = none := by
  fun_cases storedThreshold? value with
  | case1 | case2 | case3 | case4 => simp
  | case5 => exact fun _ => rfl
  | case6 value notFloat notBool notInt =>
    intro _
    cases value with
    | float value => exact (notFloat value rfl).elim
    | bool flag => exact (notBool flag rfl).elim
    | int number => exact (notInt number rfl).elim
    | null | text _ | time _ | list _ | record _ => rfl

/-- The values of a row that is read can only hold where it is legible. -/
theorem legible_of_holds {stored : StoredCondition} (read : ofRow row = .ok stored)
    {metrics : Metrics} (holds : (kept row).Holds metrics) : Legible row := by
  obtain ⟨metric, comparison, _, _, metricNamed, comparisonNamed, _, denotes, _⟩ := holds
  refine ⟨⟨metric, metricNamed⟩, ⟨comparison, comparisonNamed⟩, ?_⟩
  rw [named_row_read metricNamed comparisonNamed] at read
  match outcome : storedThreshold? (row.getD "threshold") with
  | .ok (some threshold) => exact ⟨threshold, rfl⟩
  | .ok none =>
    rw [show (kept row).threshold = row.getD "threshold" from rfl,
      unread_denotes_nothing _ outcome] at denotes
    cases denotes
  | .error failure =>
    rw [outcome] at read
    cases read

/-! ## When a damaged condition holds -/

/-- A damaged condition is evaluated to true, and holds, exactly when the values of its row say so.
This happens only where metric, comparison and threshold are legible and the damage is in an
identifier or in the order, so that a condition with an unknown metric, an unknown comparison or no
number for its threshold never holds. A legible row whose identifiers or order are wrong is always
read as damaged, unless an integer that is too long to be written stands in its identifier; then it
is not read at all. -/
theorem damaged_holds_iff (row : Fields) :
    (∀ condition, ofRow row = .ok (.damaged condition) →
      ∀ metrics, (condition.evaluate metrics = .ok true ↔ (kept row).Holds metrics) ∧
        (condition.holds metrics = true ↔ (kept row).Holds metrics) ∧
        (condition.holds metrics = true → Legible row ∧ ¬ Placed row)) ∧
      (Legible row → ¬ Placed row →
        (¬ (row.getD "id").Overlong → ofRow row = .ok (.damaged (kept row).condition)) ∧
        ((row.getD "id").Overlong → ofRow row = .error (.tooManyDigits none))) := by
  constructor
  · intro condition damaged metrics
    obtain rfl := damaged_kept damaged
    refine ⟨Condition.evaluate_true_iff.trans (RawCondition.holds_iff (kept row)),
      RawCondition.holds_iff (kept row), ?_⟩
    intro holds
    have legible := legible_of_holds damaged ((RawCondition.holds_iff (kept row)).mp holds)
    refine ⟨legible, fun placed => ?_⟩
    obtain ⟨condition, sound⟩ := legible_placed legible placed
    cases damaged.symm.trans sound
  · intro legible displaced
    have read := legible_displaced legible displaced
    exact ⟨fun writable => read.trans (keep_ok writable),
      fun overlong => read.trans (keep_refused overlong)⟩

/-- A row that is sound but for its identifier, which is a number. -/
def numberedRow : Fields :=
  [("id", .int 7), ("metric", .text "clicks"), ("operator", .text "gte"),
    ("threshold", .float .zero)]

/-- The metrics of a campaign without any activity. -/
def idleMetrics : Metrics := ⟨.zero, 0, 0, 0, 0, .zero, .zero, .zero, .zero⟩

/-- The identifier of the row can be written. -/
theorem numbered_row_writable : ¬ (numberedRow.getD "id").Overlong := by
  rw [← Value.unwritable_iff]
  decide +kernel

/-- Reading the row ends with a damaged condition. -/
theorem numbered_row_damaged : ofRow numberedRow = .ok (.damaged (kept numberedRow).condition) :=
  keep_ok numbered_row_writable

/-- The row with a number for an identifier is legible and yet is read as a damaged condition, which
is then evaluated to true like the condition of the row. -/
theorem sample_damaged :
    ((kept numberedRow).condition.evaluate idleMetrics = .ok true ↔
        (kept numberedRow).Holds idleMetrics) ∧
      (Legible numberedRow ∧ ¬ Placed numberedRow) ∧
        ofRow numberedRow = .ok (.damaged (kept numberedRow).condition) :=
  have evaluated := (damaged_holds_iff numberedRow).1 _ numbered_row_damaged idleMetrics
  have misplaced := evaluated.2.2 (by decide +kernel)
  ⟨evaluated.1, misplaced,
    ((damaged_holds_iff numberedRow).2 misplaced.1 misplaced.2).1 numbered_row_writable⟩

/-- A damaged condition that holds, because there are at least no clicks. It was damaged by an
identifier that is no text, which no comparison looks at. -/
theorem damaged_condition_holds :
    ¬ ∀ (row : Fields) (condition : Condition), ofRow row = .ok (.damaged condition) →
      ∀ metrics, condition.holds metrics = false := by
  intro never
  have fails := never numberedRow _ numbered_row_damaged idleMetrics
  exact absurd fails (by decide +kernel)

end AdRules.StoredCondition

import AdRules.Insights
import AdRules.Proofs.NearestDoubles
import AdRules.Proofs.NumbersInText
import AdRules.Proofs.Rechecks

/-!
# Reading insights

An answer of the metrics source is read from its data, or from the first entry of its data. Every
field there is absent, denotes a number or is of no use. From numbers that are not negative comes a
snapshot with the nearest doubles as amounts and their integer parts as counts. In every other case
the reading fails, for a reason of its own.
-/

namespace AdRules

/-- The real number that a number denotes; a double that is not finite counts as zero. -/
noncomputable def Number.real : Number → ℝ
  | .int value => value
  | .float value => value.real

namespace Insights

/-! ## What is read -/

/-- What a record has under the name of the data, or null; any other answer is the data itself. -/
inductive Data : Value → Value → Prop
  | given {fields : Fields} {data : Value} (is : fields.get? "data" = some data) :
      Data (.record fields) data
  | absent {fields : Fields} (none : fields.get? "data" = none) : Data (.record fields) .null
  | self {answer : Value} (other : ∀ fields, answer ≠ .record fields) : Data answer answer

/-- The first entry of a list with entries; any other data is the element itself. -/
inductive Element : Value → Value → Prop
  | first {entry : Value} {entries : List Value} : Element (.list (entry :: entries)) entry
  | self {data : Value} (other : ∀ entry entries, data ≠ .list (entry :: entries)) :
      Element data data

/-- The element that an answer is about, said step by step: the data of the answer, and the element
that the data stands for. -/
def Selects (answer element : Value) : Prop := ∃ data, Data answer data ∧ Element data element

/-- What is selected is the subject of an answer, so no answer selects two elements. -/
theorem Selects.subject {answer element : Value} (selected : Selects answer element) :
    subject answer = element := by
  obtain ⟨data, isData, isElement⟩ := selected
  unfold Insights.subject
  cases isElement with
  | first =>
    cases isData with
    | given is => simp only [Fields.getD, is, Option.getD_some]
    | self other => rfl
  | self other =>
    cases isData with
    | given is =>
      simp only [Fields.getD, is, Option.getD_some]
    | absent none => simp only [Fields.getD, none, Option.getD_none]
    | self noRecord =>
      cases answer with
      | record fields => exact absurd rfl (noRecord fields)
      | list items =>
        cases items with
        | nil => rfl
        | cons entry entries => exact absurd rfl (other entry entries)
      | null | bool _ | int _ | float _ | text _ | time _ => rfl

/-- Every answer is about an element, its subject: the relations leave no answer out. -/
theorem selects_subject (answer : Value) : Selects answer (Insights.subject answer) := by
  have data : ∃ data, Data answer data := by
    cases answer with
    | record fields =>
      cases is : Fields.get? fields "data" with
      | none => exact ⟨.null, .absent is⟩
      | some data => exact ⟨data, .given is⟩
    | null | bool _ | int _ | float _ | text _ | time _ | list _ =>
      exact ⟨_, .self fun _ => Value.noConfusion⟩
  obtain ⟨data, isData⟩ := data
  have element : ∃ element, Element data element := by
    cases data with
    | list items =>
      cases items with
      | nil => exact ⟨_, .self fun _ _ same => List.cons_ne_nil _ _ (Value.list.inj same).symm⟩
      | cons entry entries => exact ⟨entry, .first⟩
    | null | bool _ | int _ | float _ | text _ | time _ | record _ =>
      exact ⟨_, .self fun _ _ => Value.noConfusion⟩
  obtain ⟨element, isElement⟩ := element
  have selected : Selects answer element := ⟨data, isData, isElement⟩
  exact selected.subject ▸ selected

/-- The double that the value of a field gives: zero where there is none, and else the finite one
that is nearest to the number that the text of the value denotes. -/
inductive Figure : Value → Double → Prop
  | absent : Figure .null .zero
  | given {raw : Value} {number : Decimal} {double : Double}
      (denotes : Text.Denotes raw.plain number) (below : |number.value| < Double.limit)
      (nearest : double.Nearest number.value) : Figure raw double

/-- The number that a metric takes from the value of its field: a double for an amount and its
integer part for a count. -/
inductive Gives (metric : Metric) (raw : Value) : Number → Prop
  | amount {double : Double} (measured : metric.isCount = false) (figure : Figure raw double) :
      Gives metric raw (.float double)
  | count {double : Double} (counted : metric.isCount = true) (figure : Figure raw double) :
      Gives metric raw (.int (integerPart double.real))

/-- Why a record is of no use: a value that gives no double, a negative number or an identifier that
is empty or not whole. -/
inductive Refuses (campaignId : String) (fields : Fields) : SourceFault → Prop
  | unreadable {metric : Metric}
      (none : ∀ double, ¬ Figure (fields.getD (Vocabulary.word metric)) double) :
      Refuses campaignId fields (.badValue metric (fields.getD (Vocabulary.word metric)))
  | negative {metric : Metric} {number : Number} {issues : List Issue}
      (gives : Gives metric (fields.getD (Vocabulary.word metric)) number)
      (below : number.real < 0) : Refuses campaignId fields (.unsound issues)
  | unidentified {issues : List Issue}
      (bad : campaignId = "" ∨ Text.isWhole campaignId = false) :
      Refuses campaignId fields (.unsound issues)

/-- A value that is an integer, as a number or as a text that denotes it. -/
inductive Shows : Value → Nat → Prop
  | number (number : Nat) : Shows (.int number) number
  | text {text : String} {decimal : Decimal} {number : Nat} (denotes : Text.Denotes text decimal)
      (same : decimal.value = number) : Shows (.text text) number

/-- A snapshot that says what a record says. -/
structure Reading (now : Timestamp) (campaignId name : String) (fields : Fields)
    (snapshot : Snapshot) : Prop where
  campaignId : snapshot.campaignId = campaignId
  name : snapshot.name = name
  syncedAt : snapshot.syncedAt = now
  unstored : snapshot.id = none ∧ snapshot.createdAt = none ∧ snapshot.updatedAt = none
  figures (metric : Metric) : Gives metric (fields.getD (Vocabulary.word metric))
    (snapshot.metrics.value metric)
  nonnegative (metric : Metric) : 0 ≤ (snapshot.metrics.value metric).real
  exact (metric : Metric) (counted : metric.isCount = true) (number : Nat)
    (small : number ≤ 2 ^ 53) (given : Shows (fields.getD (Vocabulary.word metric)) number) :
    snapshot.metrics.value metric = .int number

/-! ## Figures -/

/-- A figure is finite: it is zero or the nearest double of a number below the limit. -/
theorem Figure.finite {raw : Value} {double : Double} (figure : Figure raw double) :
    double.isFinite = true := by
  cases figure with
  | absent => rfl
  | given denotes below nearest => exact nearest.finite

/-- Any value but null is read through its text, as a double that has to be finite. -/
theorem figure_of_text {raw : Value} (some : raw ≠ .null) :
    figure? raw = (Text.toDouble? (Text.strip raw.plain)).filter Double.isFinite := by
  cases raw with
  | null => exact absurd rfl some
  | bool _ | int _ | float _ | text _ | time _ | list _ | record _ => rfl

/-- Null denotes no number. -/
theorem denoted_not_null {raw : Value} {number : Decimal}
    (denotes : Text.Denotes raw.plain number) : raw ≠ .null := by
  rintro rfl
  have unread : Text.toDouble? (Text.strip Value.null.plain) = none := by decide +kernel
  rw [denotes.read] at unread
  cases unread

/-- A field that denotes a number short of the limit is read as the double of the number. -/
theorem figure_denoted {raw : Value} {number : Decimal} (denotes : Text.Denotes raw.plain number)
    (below : |number.value| < Double.limit) : figure? raw = some (Double.ofDecimal number) := by
  rw [figure_of_text (denoted_not_null denotes), denotes.read, Option.filter_eq_some_iff]
  exact ⟨rfl, (Double.of_decimal_finite_iff number).mpr below⟩

/-- What is read from a field is the double that it gives. -/
theorem figure_read {raw : Value} {double : Double} (read : figure? raw = some double) :
    Figure raw double := by
  by_cases null : raw = .null
  · subst null
    cases read
    exact .absent
  · rw [figure_of_text null, Option.filter_eq_some_iff] at read
    obtain ⟨isRead, finite⟩ := read
    obtain ⟨number, denotes, rfl⟩ := Text.denotes_of_read isRead finite
    exact .given denotes ((Double.of_decimal_finite_iff number).mp finite)
      (Double.of_decimal_nearest finite)

/-- A field that is not read gives no double. -/
theorem figure_missing {raw : Value} (missing : figure? raw = none) (double : Double) :
    ¬ Figure raw double := by
  intro figure
  cases figure with
  | absent => cases missing
  | given denotes below nearest =>
    rw [figure_denoted denotes below] at missing
    cases missing

/-- All fields are read when every single one is. -/
theorem figures_read {record : Fields} {figure : Metric → Double} {metrics : List Metric}
    (given : ∀ metric ∈ metrics,
      figure? (record.getD (Vocabulary.word metric)) = some (figure metric)) :
    figures record metrics =
      .ok (metrics.map fun metric => (Vocabulary.word metric, settle metric (figure metric))) := by
  induction metrics with
  | nil => rfl
  | cons metric rest inductionHypothesis =>
    obtain ⟨first, others⟩ := List.forall_mem_cons.mp given
    simp only [figures, first, inductionHypothesis others, bind, Except.bind, pure, Except.pure,
      List.map_cons]

/-- Otherwise the first field that is not read is the reason for the failure. -/
theorem figures_refused {record : Fields} {metrics : List Metric} {metric : Metric}
    (member : metric ∈ metrics) (missing : figure? (record.getD (Vocabulary.word metric)) = none) :
    ∃ first, figure? (record.getD (Vocabulary.word first)) = none ∧
      figures record metrics =
        .error (.badValue first (record.getD (Vocabulary.word first))) := by
  induction metrics with
  | nil => cases member
  | cons head rest inductionHypothesis =>
    cases read : figure? (record.getD (Vocabulary.word head)) with
    | none => exact ⟨head, read, by simp only [figures, read]⟩
    | some figure =>
      have later : metric ∈ rest := by
        rcases List.mem_cons.mp member with rfl | later
        · rw [missing] at read
          cases read
        · exact later
      obtain ⟨first, none, refused⟩ := inductionHypothesis later
      exact ⟨first, none, by simp only [figures, read, refused, bind, Except.bind]⟩

/-- The decimal of an integer denotes it. -/
theorem int_decimal_value (number : Int) :
    (⟨decide (number < 0), number.natAbs, 0⟩ : Decimal).value = number := by
  rw [Decimal.value, Decimal.size, zpow_zero, mul_one, Nat.cast_natAbs, Int.cast_abs, withSign]
  rcases lt_or_ge number 0 with below | above
  · rw [decide_eq_true below, if_pos rfl, abs_of_neg (Int.cast_lt_zero.mpr below), neg_neg]
  · rw [decide_eq_false (not_lt.mpr above), if_neg Bool.false_ne_true,
      abs_of_nonneg (Int.cast_nonneg above)]

/-- An integer of at most 53 binary digits is read exactly. -/
theorem Shows.figure {raw : Value} {number : Nat} (shows : Shows raw number)
    (small : number ≤ 2 ^ 53) : ∃ double, figure? raw = some double ∧ double.real = number := by
  have denoted : ∃ decimal, Text.Denotes raw.plain decimal ∧ decimal.value = number := by
    cases shows with
    | number => exact ⟨_, Text.int_denotes number, int_decimal_value number⟩
    | text denotes same => exact ⟨_, denotes, same⟩
  obtain ⟨decimal, denotes, same⟩ := denoted
  obtain ⟨size, whole⟩ := Magnitude.exists_whole (show number ≤ mantissaBound from small)
  have below : |decimal.value| < Double.limit := by
    rw [same, ← whole, abs_of_nonneg size.real_nonneg]
    exact size.real_lt_limit
  have nearest := Double.of_decimal_nearest ((Double.of_decimal_finite_iff decimal).mpr below)
  refine ⟨Double.ofDecimal decimal, figure_denoted denotes below, ?_⟩
  rw [← same]
  exact nearest.exact (show (Double.finite false size).isFinite = true from rfl)
    (whole.trans same.symm)

end Insights

/-! ## Checked numbers -/

/-- A finite double has its place on the number line at the real that it denotes. -/
theorem Double.level_real {double : Double} (finite : double.isFinite = true) :
    ∃ units : Int, double.level? = some (.exact units) ∧ double.real = units * placeUnit := by
  match double with
  | .finite true size =>
    refine ⟨-size.units, rfl, ?_⟩
    rw [real, size.real_eq_units, Int.cast_neg, Int.cast_natCast, neg_mul]
  | .finite false size =>
    refine ⟨size.units, rfl, ?_⟩
    rw [real, size.real_eq_units, Int.cast_natCast]

/-- A finite double is accepted as an amount exactly if the real number that it denotes is not
negative. Negative zero is accepted, as it denotes zero. -/
theorem Double.is_amount_iff {double : Double} (finite : double.isFinite = true) :
    double.IsAmount ↔ 0 ≤ double.real := by
  obtain ⟨units, placed, is⟩ := Double.level_real finite
  rw [is, mul_nonneg_iff_of_pos_right place_unit_pos, Int.cast_nonneg_iff]
  constructor
  · rintro ⟨level, isLevel, above⟩
    rw [placed] at isLevel
    cases isLevel
    exact of_decide_eq_true above
  · intro nonnegative
    exact ⟨_, placed, decide_eq_true nonnegative⟩

namespace Insights

/-- What a metric keeps of a figure: its integer part where the metric counts, and the double as it
is elsewhere. -/
noncomputable def settled (metric : Metric) (double : Double) : Number :=
  if metric.isCount then .int (integerPart double.real) else .float double

/-- What is handed to the check of a snapshot is the value of what a metric keeps. -/
theorem settle_eq (metric : Metric) {double : Double} (finite : double.isFinite = true) :
    settle metric double = (settled metric double).toValue := by
  unfold settle settled
  split_ifs
  · rw [Double.truncate_eq finite]
    rfl
  · rfl

/-- A figure gives its metric the double itself, or its integer part where the metric is a count. -/
theorem Figure.gives (metric : Metric) {raw : Value} {double : Double}
    (figure : Figure raw double) : Gives metric raw (settled metric double) := by
  unfold settled
  split_ifs with counted
  · exact .count counted figure
  · exact .amount (Bool.not_eq_true _ ▸ counted) figure

end Insights

/-- An integer is accepted as a count exactly if it is not negative, and then kept as it is. -/
theorem count_of_int {value : Int} {count : Nat} :
    Check.count (.int value) = .valid count ↔ 0 ≤ value ∧ value = count := by
  have checked : Check.count (.int value) =
      if 0 ≤ value then .valid value.toNat else Checked.fault (.atLeast 0) (.int value) := rfl
  rw [checked]
  split_ifs with nonnegative
  · rw [Checked.valid.injEq]
    omega
  · exact iff_of_false (Checked.fault_invalid _ _ _) fun given => nonnegative given.1

/-- A finite double is accepted as an amount exactly if it is not negative, and then kept as it is.
-/
theorem amount_of_float {value amount : Double} (finite : value.isFinite = true) :
    Check.amount (.float value) = .valid amount ↔ 0 ≤ value.real ∧ value = amount := by
  constructor
  · intro valid
    obtain ⟨given, isAmount⟩ := amount_valid valid
    obtain rfl : value = amount := Checked.valid.inj given
    exact ⟨(Double.is_amount_iff finite).mp isAmount, rfl⟩
  · rintro ⟨nonnegative, rfl⟩
    exact ((Double.is_amount_iff finite).mpr nonnegative).check

/-- A reading is determined by the figures of its metrics. -/
theorem Metrics.eq_of_values {left right : Metrics}
    (same : ∀ metric, left.value metric = right.value metric) : left = right := by
  have amount {x y : Double} (is : Number.float x = .float y) : x = y := Number.float.inj is
  have count {x y : Nat} (is : Number.int x = .int y) : x = y :=
    Int.ofNat_inj.mp (Number.int.inj is)
  obtain ⟨spend, clicks, reach, impressions, linkClicks, cost, frequency, cpc, ctr⟩ := left
  obtain rfl : spend = _ := amount (same .spend)
  obtain rfl : clicks = _ := count (same .clicks)
  obtain rfl : reach = _ := count (same .reach)
  obtain rfl : impressions = _ := count (same .impressions)
  obtain rfl : linkClicks = _ := count (same .inlineLinkClicks)
  obtain rfl : cost = _ := amount (same .costPerInlineLinkClick)
  obtain rfl : frequency = _ := amount (same .frequency)
  obtain rfl : cpc = _ := amount (same .cpc)
  obtain rfl : ctr = _ := amount (same .ctr)
  rfl

/-- A text passes as one that is not empty when it is not empty and whole, and passes as it is. -/
theorem non_empty_text_iff {content result : String} :
    Check.nonEmptyText (.text content) = .valid result ↔
      (content ≠ "" ∧ Text.isWhole content = true) ∧ content = result := by
  constructor
  · intro valid
    obtain ⟨same, filled, whole⟩ := non_empty_valid valid
    cases same
    exact ⟨⟨filled, whole⟩, rfl⟩
  · rintro ⟨⟨filled, whole⟩, rfl⟩
    simp [Check.nonEmptyText, Check.text, Checked.andThen, Check.whole, whole, filled]

namespace Insights

/-- What a metric keeps passes its check exactly when it is not negative, and passes as it is. -/
theorem settled_checked {fields : Fields} {metric : Metric} {double : Double} {number : Number}
    (finite : double.isFinite = true)
    (given : fields.get? (Vocabulary.word metric) = some (settled metric double).toValue) :
    metric.checked fields = .valid number ↔
      0 ≤ (settled metric double).real ∧ settled metric double = number := by
  unfold settled at given ⊢
  unfold Metric.checked
  split_ifs at given ⊢ with counted
  · rw [Checked.map_valid, optional_read given]
    simp only [Checked.under_valid, Number.toValue, count_of_int, Number.real, Int.cast_nonneg_iff]
    constructor
    · rintro ⟨count, ⟨nonnegative, same⟩, rfl⟩
      exact ⟨nonnegative, by rw [same]⟩
    · rintro ⟨nonnegative, rfl⟩
      exact ⟨_, ⟨nonnegative, (Int.toNat_of_nonneg nonnegative).symm⟩,
        by rw [Int.toNat_of_nonneg nonnegative]⟩
  · rw [Checked.map_valid, optional_read given]
    simp only [Checked.under_valid, Number.toValue, amount_of_float finite, Number.real]
    constructor
    · rintro ⟨amount, ⟨nonnegative, rfl⟩, rfl⟩
      exact ⟨nonnegative, rfl⟩
    · rintro ⟨nonnegative, rfl⟩
      exact ⟨double, ⟨nonnegative, rfl⟩, rfl⟩

/-! ## Snapshots -/

/-- The fields that a snapshot is made of. -/
noncomputable def snapshotFields (now : Timestamp) (campaignId name : String)
    (figure : Metric → Double) : Fields :=
  [("campaign_id", .text campaignId), ("name", .text name), ("synced_at", .time now)] ++
    Metric.all.map fun metric => (Vocabulary.word metric, (settled metric (figure metric)).toValue)

section Snapshots

variable {now : Timestamp} {campaignId name : String} {figure : Metric → Double}

/-- In the fields that are checked every metric has its own value. The names of the metrics are none
of the names before them. -/
theorem field_of_metric (metric : Metric) :
    (snapshotFields now campaignId name figure).get? (Vocabulary.word metric) =
      some (settled metric (figure metric)).toValue := by
  cases metric <;> rfl

/-- The reading that figures make. -/
noncomputable def settledMetrics (figure : Metric → Double) : Metrics :=
  let part (metric : Metric) : Nat := (integerPart (figure metric).real).toNat
  ⟨figure .spend, part .clicks, part .reach, part .impressions, part .inlineLinkClicks,
    figure .costPerInlineLinkClick, figure .frequency, figure .cpc, figure .ctr⟩

/-- It has the numbers that are kept, if none of them is negative. -/
theorem settled_metrics_value (metric : Metric)
    (nonnegative : 0 ≤ (settled metric (figure metric)).real) :
    (settledMetrics figure).value metric = settled metric (figure metric) := by
  have count (counted : metric.isCount = true) :
      .int (integerPart (figure metric).real).toNat = settled metric (figure metric) := by
    rw [settled, if_pos counted, Number.real, Int.cast_nonneg_iff] at nonnegative
    rw [settled, if_pos counted, Int.toNat_of_nonneg nonnegative]
  cases metric with
  | clicks | reach | impressions | inlineLinkClicks => exact count rfl
  | spend | costPerInlineLinkClick | frequency | cpc | ctr => rfl

/-- A snapshot comes from numbers that are not negative under an identifier that is a whole text and
not empty, and from nothing else. -/
theorem snapshot_valid (finite : ∀ metric, (figure metric).isFinite = true) {snapshot : Snapshot} :
    Snapshot.ofFields ⟨now, false⟩ (snapshotFields now campaignId name figure) = .valid snapshot ↔
      (campaignId ≠ "" ∧ Text.isWhole campaignId = true) ∧
      (∀ metric, 0 ≤ (settled metric (figure metric)).real) ∧
      snapshot = ⟨settledMetrics figure, none, campaignId, name, now, none, none⟩ := by
  have checked (metrics : Metrics) :
      Metrics.ofFields (snapshotFields now campaignId name figure) = .valid metrics ↔
        (∀ metric, 0 ≤ (settled metric (figure metric)).real) ∧
        settledMetrics figure = metrics := by
    rw [Metrics.of_fields_iff]
    simp only [settled_checked (finite _) (field_of_metric _)]
    constructor
    · intro each
      refine ⟨fun metric => (each metric).1, Metrics.eq_of_values fun metric => ?_⟩
      rw [settled_metrics_value metric (each metric).1, (each metric).2]
    · rintro ⟨nonnegative, rfl⟩ metric
      exact ⟨nonnegative metric, (settled_metrics_value metric (nonnegative metric)).symm⟩
  have identified : Checked.required (snapshotFields now campaignId name figure) "campaign_id"
      Check.nonEmptyText = (Check.nonEmptyText (.text campaignId)).under (.field "campaign_id") :=
    required_read rfl
  unfold Snapshot.ofFields
  rw [identified]
  constructor
  · intro valid
    obtain ⟨_, _, upToCreated, updatedGiven, rfl⟩ := Checked.seq_valid.mp valid
    obtain ⟨_, _, upToSynced, createdGiven, rfl⟩ := Checked.seq_valid.mp upToCreated
    obtain ⟨_, _, upToName, syncedGiven, rfl⟩ := Checked.seq_valid.mp upToSynced
    obtain ⟨_, _, upToCampaign, nameGiven, rfl⟩ := Checked.seq_valid.mp upToName
    obtain ⟨_, _, upToId, campaignGiven, rfl⟩ := Checked.seq_valid.mp upToCampaign
    obtain ⟨_, _, upToMetrics, idGiven, rfl⟩ := Checked.seq_valid.mp upToId
    obtain ⟨_, metricsGiven, rfl⟩ := Checked.map_valid.mp upToMetrics
    obtain ⟨nonnegative, rfl⟩ := (checked _).mp metricsGiven
    obtain ⟨sound, rfl⟩ := non_empty_text_iff.mp (Checked.under_valid.mp campaignGiven)
    cases updatedGiven
    cases createdGiven
    cases syncedGiven
    cases nameGiven
    cases idGiven
    exact ⟨sound, nonnegative, rfl⟩
  · rintro ⟨sound, nonnegative, rfl⟩
    rw [(checked _).mpr ⟨nonnegative, rfl⟩, non_empty_text_iff.mpr ⟨sound, rfl⟩]
    rfl

end Snapshots

/-! ## Answers -/

/-- Every metric is read, since the list of them leaves none out. -/
theorem metric_listed (metric : Metric) : metric ∈ Metric.all := by
  cases metric <;> decide

section Answers

variable (now : Timestamp) (campaignId name : String) {answer : Value} {fields : Fields}

/-- From a record whose fields are all read comes what the check makes of the figures. -/
theorem read_figures {figure : Metric → Double} (is : subject answer = .record fields)
    (filled : fields ≠ [])
    (given : ∀ metric, figure? (fields.getD (Vocabulary.word metric)) = some (figure metric)) :
    read now (.text campaignId) (.text name) answer =
      match Snapshot.ofFields ⟨now, false⟩ (snapshotFields now campaignId name figure) with
      | .valid snapshot => .ok snapshot
      | .invalid issues => .error (.unsound issues) := by
  have same : (Metric.all.map fun metric =>
        (Vocabulary.word metric, settle metric (figure metric))) =
      Metric.all.map fun metric =>
        (Vocabulary.word metric, (settled metric (figure metric)).toValue) :=
    List.map_congr_left fun metric _ => by rw [settle_eq metric (figure_read (given metric)).finite]
  obtain ⟨field, others, rfl⟩ := List.exists_cons_of_ne_nil filled
  simp only [read, is, figures_read fun metric _ => given metric, same, bind, Except.bind]
  rfl

/-- A record with a field that is not read is refused for the first such field. -/
theorem read_unreadable {metric : Metric} (is : subject answer = .record fields)
    (filled : fields ≠ []) (missing : figure? (fields.getD (Vocabulary.word metric)) = none) :
    ∃ first, figure? (fields.getD (Vocabulary.word first)) = none ∧
      read now (.text campaignId) (.text name) answer =
        .error (.badValue first (fields.getD (Vocabulary.word first))) := by
  obtain ⟨first, none, refused⟩ := figures_refused (metric_listed metric) missing
  obtain ⟨field, others, rfl⟩ := List.exists_cons_of_ne_nil filled
  exact ⟨first, none, by simp only [read, is, refused, bind, Except.bind]⟩

/-- Figures that are read and not kept as negative numbers make a snapshot that says what the record
says. -/
theorem settled_reading {figure : Metric → Double}
    (given : ∀ metric, figure? (fields.getD (Vocabulary.word metric)) = some (figure metric))
    (nonnegative : ∀ metric, 0 ≤ (settled metric (figure metric)).real) :
    Reading now campaignId name fields
      ⟨settledMetrics figure, none, campaignId, name, now, none, none⟩ where
  campaignId := rfl
  name := rfl
  syncedAt := rfl
  unstored := ⟨rfl, rfl, rfl⟩
  figures := by
    intro metric
    rw [settled_metrics_value metric (nonnegative metric)]
    exact (figure_read (given metric)).gives metric
  nonnegative := by
    intro metric
    rw [settled_metrics_value metric (nonnegative metric)]
    exact nonnegative metric
  exact := by
    intro metric counted number small shows
    obtain ⟨double, isRead, exact⟩ := shows.figure small
    obtain rfl : figure metric = double := Option.some.inj ((given metric).symm.trans isRead)
    rw [settled_metrics_value metric (nonnegative metric), settled, if_pos counted, exact,
      integerPart, if_pos (Nat.cast_nonneg number), Int.floor_natCast]

/-- Either all fields are read, or the reading fails for the first that is not. -/
theorem read_cases (is : subject answer = .record fields) (filled : fields ≠ []) :
    (∃ figure : Metric → Double,
      ∀ metric, figure? (fields.getD (Vocabulary.word metric)) = some (figure metric)) ∨
    ∃ first, figure? (fields.getD (Vocabulary.word first)) = none ∧
      read now (.text campaignId) (.text name) answer =
        .error (.badValue first (fields.getD (Vocabulary.word first))) := by
  by_cases readable : ∃ metric : Metric, figure? (fields.getD (Vocabulary.word metric)) = none
  · obtain ⟨metric, missing⟩ := readable
    exact .inr (read_unreadable now campaignId name is filled missing)
  · have each (metric : Metric) :
        ∃ double, figure? (fields.getD (Vocabulary.word metric)) = some double :=
      Option.ne_none_iff_exists'.mp fun none => readable ⟨metric, none⟩
    choose figure given using each
    exact .inl ⟨figure, given⟩

/-- A snapshot comes from a record with fields exactly when all figures are read, none is kept as a
negative number and the identifier is a whole text and not empty. -/
theorem read_ok_iff (is : subject answer = .record fields) (filled : fields ≠ [])
    {snapshot : Snapshot} :
    read now (.text campaignId) (.text name) answer = .ok snapshot ↔
      ∃ figure : Metric → Double,
        (∀ metric, figure? (fields.getD (Vocabulary.word metric)) = some (figure metric)) ∧
        (campaignId ≠ "" ∧ Text.isWhole campaignId = true) ∧
        (∀ metric, 0 ≤ (settled metric (figure metric)).real) ∧
        snapshot = ⟨settledMetrics figure, none, campaignId, name, now, none, none⟩ := by
  constructor
  · intro made
    rcases read_cases now campaignId name is filled with ⟨figure, given⟩ | ⟨first, _, refused⟩
    · rw [read_figures now campaignId name is filled given] at made
      split at made
      · next valid =>
        cases made
        exact ⟨figure, given,
          (snapshot_valid fun metric => (figure_read (given metric)).finite).mp valid⟩
      · cases made
    · rw [refused] at made
      cases made
  · rintro ⟨figure, given, sound⟩
    rw [read_figures now campaignId name is filled given,
      (snapshot_valid fun metric => (figure_read (given metric)).finite).mpr sound]

/-- Whatever the answer, it is about an element, and the reading is settled by that element. It
fails without data when the element is no record with fields. Otherwise it is made of the fields of
that record: it gives a snapshot that says what the record says, or it fails for a reason that the
record has. Texts that hold one of the characters which stand in for halves are left out. -/
theorem answers_read_soundly (now : Timestamp) (campaignId name : String) (answer : Value) :
    (∃ element, Selects answer element) ∧ ∀ element, Selects answer element →
      ((∀ fields : Fields, element = .record fields → fields = []) →
        read now (.text campaignId) (.text name) answer = .error .noData) ∧
      ∀ fields : Fields, element = .record fields → fields ≠ [] →
        (∃ snapshot, read now (.text campaignId) (.text name) answer = .ok snapshot ∧
          Reading now campaignId name fields snapshot) ∨
        ∃ fault, read now (.text campaignId) (.text name) answer = .error fault ∧
          Refuses campaignId fields fault := by
  refine ⟨⟨_, selects_subject answer⟩, fun element selected => ?_⟩
  have is := selected.subject
  constructor
  · intro empty
    unfold read
    rw [is]
    split
    · exact absurd (empty _ rfl) (List.cons_ne_nil _ _)
    · rfl
  · rintro fields rfl filled
    rcases read_cases now campaignId name is filled with ⟨figure, given⟩ | ⟨first, none, refused⟩
    · cases made : read now (.text campaignId) (.text name) answer with
      | ok snapshot =>
        obtain ⟨figure, given, _, nonnegative, rfl⟩ :=
          (read_ok_iff now campaignId name is filled).mp made
        exact .inl ⟨_, rfl, settled_reading now campaignId name given nonnegative⟩
      | error fault =>
        have unsound : ¬ ((campaignId ≠ "" ∧ Text.isWhole campaignId = true) ∧
            ∀ metric, 0 ≤ (settled metric (figure metric)).real) := by
          rintro ⟨identified, nonnegative⟩
          have accepted := (read_ok_iff now campaignId name is filled).mpr
            ⟨figure, given, identified, nonnegative, rfl⟩
          rw [made] at accepted
          cases accepted
        rw [read_figures now campaignId name is filled given] at made
        split at made
        · cases made
        · cases made
          refine .inr ⟨_, rfl, ?_⟩
          rcases not_and_or.mp unsound with unidentified | negative
          · rw [not_and_or, not_not, Bool.not_eq_true] at unidentified
            exact .unidentified unidentified
          · obtain ⟨metric, below⟩ := not_forall.mp negative
            exact .negative ((figure_read (given metric)).gives metric) (not_le.mp below)
    · exact .inr ⟨_, refused, .unreadable (figure_missing none)⟩

end Answers

/-- The first entry of an answer: a figure with a fraction, one with an underscore and an exponent,
and an integer of 53 binary digits. -/
def sampleEntry : Fields :=
  [("clicks", .text "12.7"), ("spend", .text " 1_0.5e1 "), ("reach", .int 9007199254740991)]

/-- An answer with a list of entries is read from the first of them, with a fraction cut off and an
integer of 53 digits kept. An answer of null has no data. -/
theorem sample_answer_read :
    (∃ snapshot, read ⟨0, none⟩ (.text "summer") (.text "Summer")
        (.record [("data", .list [.record sampleEntry, .null])]) = .ok snapshot ∧
      Reading ⟨0, none⟩ "summer" "Summer" sampleEntry snapshot ∧
      snapshot.metrics.clicks = 12 ∧ snapshot.metrics.reach = 9007199254740991) ∧
    read ⟨0, none⟩ (.text "summer") (.text "Summer") .null = .error .noData := by
  have selected : Selects (.record [("data", .list [.record sampleEntry, .null])])
      (.record sampleEntry) := ⟨_, .given rfl, .first⟩
  have nothing : Selects .null .null :=
    ⟨.null, .self fun _ => Value.noConfusion, .self fun _ _ => Value.noConfusion⟩
  have counted : ((read ⟨0, none⟩ (.text "summer") (.text "Summer")
      (.record [("data", .list [.record sampleEntry, .null])])).toOption.map fun snapshot =>
        (snapshot.metrics.clicks, snapshot.metrics.reach)) = some (12, 9007199254740991) := by
    decide +kernel
  refine ⟨?_, ((answers_read_soundly _ _ _ _).2 _ nothing).1 fun _ => Value.noConfusion⟩
  rcases ((answers_read_soundly ⟨0, none⟩ "summer" "Summer" _).2 _ selected).2 sampleEntry rfl
    (List.cons_ne_nil _ _) with ⟨snapshot, made, reading⟩ | ⟨fault, refused, _⟩
  · rw [made] at counted
    obtain ⟨clicks, reach⟩ := Prod.mk.inj (Option.some.inj counted)
    exact ⟨snapshot, made, reading, clicks, reach⟩
  · rw [refused] at counted
    cases counted

end Insights

end AdRules

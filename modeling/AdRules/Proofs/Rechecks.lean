import AdRules.Campaign
import AdRules.Proofs.Checks

/-!
# Records that are checked again

A record that is handed on may be checked once more, either as it is or in some written form. Every
field of a record passes its check unchanged, as long as its times can be read back from that form;
of a rule only the name has to be looked at, because its check takes blanks off.
-/

namespace AdRules

/-! ## Vocabularies -/

/-- The actions have distinct words, all of them are members, and no word has a stray half. -/
instance : Vocabulary.Lawful Action :=
  ⟨by intro action; cases action <;> decide, by intro action; cases action <;> decide⟩

/-- The statuses have distinct words, all of them are members, and no word has a stray half. -/
instance : Vocabulary.Lawful Status :=
  ⟨by intro status; cases status <;> decide, by intro status; cases status <;> decide⟩

section Words

variable {α : Type} [Vocabulary α] [Vocabulary.Lawful α]

/-- A member of a vocabulary is read as itself, also where other words may stand. -/
theorem term_check (label : String) (member : α) :
    Term.check label (Vocabulary.toValue member) = .valid (.known member) := by
  have read : Term.read (Vocabulary.toValue member) = .known member :=
    (Vocabulary.read_known_iff _ member).mpr rfl
  simpa only [Vocabulary.toValue, Term.check, Checked.valid.injEq] using read

/-- A member of a vocabulary is chosen by its word. -/
theorem choice_check (member : α) : Check.choice (Vocabulary.toValue member) = .valid member := by
  have named : Vocabulary.ofValue? (Vocabulary.toValue member) = some member :=
    (Vocabulary.of_value_iff _ member).mpr rfl
  have whole := Vocabulary.Lawful.whole member
  simp only [Vocabulary.toValue] at named
  simp only [Check.choice, Vocabulary.toValue, named, Check.whole, whole, if_true]

end Words

/-! ## Fields -/

section Fields

variable {α : Type} {fields : Fields} {name : String} {check : Value → Checked α} {input : Value}
  {result : α}

/-- A required field is checked where it is given. -/
theorem required_read (given : fields.get? name = some input) :
    Checked.required fields name check = (check input).under (.field name) := by
  simp only [Checked.required, given]

/-- A required field that is given is valid if its value passes. -/
theorem required_given (given : fields.get? name = some input)
    (passes : check input = .valid result) :
    Checked.required fields name check = .valid result := by
  simp only [Checked.required, given, passes, Checked.under]

/-- An optional field that is given is checked as a required one is, whatever its default. -/
theorem optional_read {default : α} (given : fields.get? name = some input) :
    Checked.optional fields name default check = (check input).under (.field name) := by
  simp only [Checked.optional, given]

/-- An optional field that is given is valid if its value passes. Its default does not count then.
-/
theorem optional_given {default : α} (given : fields.get? name = some input)
    (passes : check input = .valid result) :
    Checked.optional fields name default check = .valid result := by
  simp only [Checked.optional, given, passes, Checked.under]

/-- What is not null and passes is accepted where null is. -/
theorem nullable_given (given : input ≠ .null) (passes : check input = .valid result) :
    Checked.nullable check input = .valid (some result) := by
  cases input with
  | null => exact absurd rfl given
  | bool _ | int _ | float _ | text _ | time _ | list _ | record _ =>
    simp only [Checked.nullable, passes, Checked.map]

/-- A text that may be missing passes as it is. -/
theorem nullable_text (content : Option String) :
    Checked.nullable Check.text (.ofText? content) = .valid content := by
  cases content <;> rfl

end Fields

/-! ## Forms -/

/-- The fields with their values in some form. -/
def Fields.inForm (form : Value → Value) (fields : Fields) : Fields :=
  fields.map fun field => (field.1, form field.2)

/-- A field of a record in some form is the field in that form. -/
@[simp] theorem Fields.get_in_form (form : Value → Value) (fields : Fields) (name : String) :
    (fields.inForm form).get? name = (fields.get? name).map form := by
  induction fields with
  | nil => rfl
  | cons field rest inductionHypothesis =>
    simp only [get?, inForm] at inductionHypothesis
    by_cases same : (field.1 == name) = true
    · simp [get?, inForm, same]
    · simpa [get?, inForm, List.find?_cons, same] using inductionHypothesis

/-- A record in the form in which nothing changes is the record. -/
@[simp] theorem Fields.in_form_id (fields : Fields) : fields.inForm id = fields := by
  simp [inForm]

/-- Fields among which all fields of a part are found. -/
def Fields.Include (fields part : Fields) : Prop :=
  ∀ ⦃name value⦄, part.get? name = some value → fields.get? name = some value

/-- A record includes all that it has itself. -/
theorem Fields.include_self (fields : Fields) : fields.Include fields := fun _ _ given => given

/-- Fields that are put behind others hide none of them. -/
theorem Fields.include_append (part others : Fields) : Fields.Include (part ++ others) part := by
  intro name value given
  obtain ⟨field, found, isValue⟩ := Option.map_eq_some_iff.mp given
  simp [get?, List.find?_append, found, isValue]

/-- A form of values that is taken part by part, shows everything but times as it is, and lets
`known` times be read back. -/
structure Legible (known : Timestamp → Prop) (form : Value → Value) : Prop where
  null : form .null = .null
  bool : ∀ flag, form (.bool flag) = .bool flag
  int : ∀ number, form (.int number) = .int number
  float : ∀ number, form (.float number) = .float number
  text : ∀ content, form (.text content) = .text content
  time : ∀ moment, known moment → Check.time (form (.time moment)) = .valid moment
  list : ∀ items, form (.list items) = .list (items.map form)
  record : ∀ fields, form (.record fields) = .record (Fields.inForm form fields)

/-- Values as they are. -/
theorem legible_id : Legible (fun _ => True) id where
  null := rfl
  bool _ := rfl
  int _ := rfl
  float _ := rfl
  text _ := rfl
  time _ _ := rfl
  list items := by simp
  record fields := by simp

section InForm

variable {form : Value → Value} {α : Type} {fields : Fields} {check : Value → Checked α}
  {input : Value} {result : α} (name : String)

/-- A required field of a record in some form is valid if its value passes in that form. -/
theorem required_in_form (given : fields.get? name = some input)
    (passes : check (form input) = .valid result) :
    Checked.required (fields.inForm form) name check = .valid result :=
  required_given (by rw [Fields.get_in_form, given, Option.map_some]) passes

/-- An optional field that is given in some form is valid if its value passes in that form. -/
theorem optional_in_form {default : α} (given : fields.get? name = some input)
    (passes : check (form input) = .valid result) :
    Checked.optional (fields.inForm form) name default check = .valid result :=
  optional_given (by rw [Fields.get_in_form, given, Option.map_some]) passes

end InForm

namespace Legible

variable {known : Timestamp → Prop} {form : Value → Value} (legible : Legible known form)
  {α : Type}

include legible

/-- A text passes as it is. -/
theorem plain (content : String) : Check.text (form (.text content)) = .valid content := by
  rw [legible.text]
  rfl

/-- A text that may be missing passes as it is. -/
theorem nullable_text (content : Option String) :
    Checked.nullable Check.text (form (.ofText? content)) = .valid content := by
  cases content with
  | none => simp only [Value.ofText?, legible.null, Checked.nullable]
  | some content => exact legible.text content ▸ AdRules.nullable_text (some content)

/-- A flag passes as it is. -/
theorem flag (flag : Bool) : Check.bool (form (.bool flag)) = .valid flag := by
  rw [legible.bool]
  rfl

/-- An integer that may be missing passes as it is. -/
theorem nullable_int (number : Option Int) :
    Checked.nullable Check.int (form (.ofInt? number)) = .valid number := by
  cases number with
  | none => simp only [Value.ofInt?, legible.null, Checked.nullable]
  | some number =>
    simp only [Value.ofInt?, legible.int]
    rfl

/-- A count passes as it is. -/
theorem count (number : Nat) : Check.count (form (.int number)) = .valid number := by
  simp [legible.int, Check.count, Check.int, Checked.andThen]

/-- A member of a vocabulary is chosen by its word. -/
theorem choice [Vocabulary α] [Vocabulary.Lawful α] (member : α) :
    Check.choice (form (Vocabulary.toValue member)) = .valid member := by
  simp only [Vocabulary.toValue, legible.text]
  exact choice_check member

/-- A time that may be missing is read back. -/
theorem nullable_time {moment : Option Timestamp} (isKnown : ∀ time ∈ moment, known time) :
    Checked.nullable Check.time (form (.ofTime? moment)) = .valid moment := by
  cases moment with
  | none => simp only [Value.ofTime?, legible.null, Checked.nullable]
  | some time =>
    have passes := legible.time time (isKnown time rfl)
    refine nullable_given ?_ passes
    intro null
    rw [show form (.time time) = .null from null] at passes
    cases passes

end Legible

/-! ## Amounts -/

/-- A double that has a place on the number line, not below zero. -/
def Double.IsAmount (value : Double) : Prop :=
  ∃ level, value.level? = some level ∧ Level.le (.exact 0) level = true

/-- Zero is an amount, which it has to be as the default of amounts is not checked. -/
theorem Double.zero_is_amount : Double.IsAmount .zero := ⟨.exact 0, by decide, by decide⟩

/-- What passes as an amount is one, and the double that was given. -/
theorem amount_valid {input : Value} {amount : Double}
    (valid : Check.amount input = .valid amount) :
    Check.float input = .valid amount ∧ amount.IsAmount := by
  obtain ⟨value, given, bounded⟩ := Checked.and_then_valid.mp valid
  split at bounded
  · next level placed =>
    split at bounded
    · next above =>
      cases bounded
      exact ⟨given, level, placed, above⟩
    · cases bounded
  · cases bounded

/-- An amount passes as it is. -/
theorem Double.IsAmount.check {amount : Double} (isAmount : amount.IsAmount) :
    Check.amount (.float amount) = .valid amount := by
  obtain ⟨level, placed, above⟩ := isAmount
  have given : Check.float (.float amount) = .valid amount := rfl
  rw [Check.amount, given, Checked.andThen, placed]
  exact if_pos above

/-- An amount that has passed the check, or is zero in its absence. -/
theorem optional_amount {fields : Fields} {name : String} {amount : Double}
    (valid : Checked.optional fields name .zero Check.amount = .valid amount) :
    amount.IsAmount := by
  rcases Checked.optional_valid valid with rfl | ⟨input, passed⟩
  · exact Double.zero_is_amount
  · exact (amount_valid passed).2

/-- The check of the field of one metric. -/
def Metric.checked (fields : Fields) (metric : Metric) : Checked Number :=
  if metric.isCount then
    (fun count : Nat => Number.int count) <$>
      Checked.optional fields (Vocabulary.word metric) 0 Check.count
  else Number.float <$> Checked.optional fields (Vocabulary.word metric) .zero Check.amount

section OneMetric

variable {fields : Fields} {metric : Metric}

/-- A metric that is an amount is checked as one, with zero as its default. -/
theorem Metric.amount_checked (measured : metric.isCount = false) {amount : Double} :
    metric.checked fields = .valid (.float amount) ↔
      Checked.optional fields (Vocabulary.word metric) .zero Check.amount = .valid amount := by
  rw [Metric.checked, measured, if_neg Bool.false_ne_true, Checked.map_valid]
  simp

/-- A metric that is a count is checked as one, with zero as its default. -/
theorem Metric.count_checked (counted : metric.isCount = true) {count : Nat} :
    metric.checked fields = .valid (.int count) ↔
      Checked.optional fields (Vocabulary.word metric) 0 Check.count = .valid count := by
  rw [Metric.checked, counted, if_pos rfl, Checked.map_valid]
  simp only [Number.int.injEq, Int.natCast_inj, exists_eq_right]

end OneMetric

/-- A reading passes the check when the field of each metric passes its own. -/
theorem Metrics.of_fields_iff {fields : Fields} {metrics : Metrics} :
    Metrics.ofFields fields = .valid metrics ↔
      ∀ metric : Metric, metric.checked fields = .valid (metrics.value metric) := by
  constructor
  · intro valid metric
    obtain ⟨_, ctr, upToCpc, ctrGiven, rfl⟩ := Checked.seq_valid.mp valid
    obtain ⟨_, cpc, upToFrequency, cpcGiven, rfl⟩ := Checked.seq_valid.mp upToCpc
    obtain ⟨_, frequency, upToCost, frequencyGiven, rfl⟩ := Checked.seq_valid.mp upToFrequency
    obtain ⟨_, cost, upToLinkClicks, costGiven, rfl⟩ := Checked.seq_valid.mp upToCost
    obtain ⟨_, linkClicks, upToImpressions, linkGiven, rfl⟩ := Checked.seq_valid.mp upToLinkClicks
    obtain ⟨_, impressions, upToReach, impressionsGiven, rfl⟩ :=
      Checked.seq_valid.mp upToImpressions
    obtain ⟨_, reach, upToClicks, reachGiven, rfl⟩ := Checked.seq_valid.mp upToReach
    obtain ⟨_, clicks, upToSpend, clicksGiven, rfl⟩ := Checked.seq_valid.mp upToClicks
    obtain ⟨spend, spendGiven, rfl⟩ := Checked.map_valid.mp upToSpend
    cases metric with
    | spend => exact (Metric.amount_checked rfl).mpr spendGiven
    | clicks => exact (Metric.count_checked rfl).mpr clicksGiven
    | reach => exact (Metric.count_checked rfl).mpr reachGiven
    | impressions => exact (Metric.count_checked rfl).mpr impressionsGiven
    | inlineLinkClicks => exact (Metric.count_checked rfl).mpr linkGiven
    | costPerInlineLinkClick => exact (Metric.amount_checked rfl).mpr costGiven
    | frequency => exact (Metric.amount_checked rfl).mpr frequencyGiven
    | cpc => exact (Metric.amount_checked rfl).mpr cpcGiven
    | ctr => exact (Metric.amount_checked rfl).mpr ctrGiven
  · intro given
    have spend : Checked.optional fields "spend" .zero Check.amount = .valid metrics.spend :=
      (Metric.amount_checked rfl).mp (given .spend)
    have clicks : Checked.optional fields "clicks" 0 Check.count = .valid metrics.clicks :=
      (Metric.count_checked rfl).mp (given .clicks)
    have reach : Checked.optional fields "reach" 0 Check.count = .valid metrics.reach :=
      (Metric.count_checked rfl).mp (given .reach)
    have impressions : Checked.optional fields "impressions" 0 Check.count =
        .valid metrics.impressions := (Metric.count_checked rfl).mp (given .impressions)
    have linkClicks : Checked.optional fields "inline_link_clicks" 0 Check.count =
        .valid metrics.inlineLinkClicks := (Metric.count_checked rfl).mp (given .inlineLinkClicks)
    have cost : Checked.optional fields "cost_per_inline_link_click" .zero Check.amount =
        .valid metrics.costPerInlineLinkClick :=
      (Metric.amount_checked rfl).mp (given .costPerInlineLinkClick)
    have frequency : Checked.optional fields "frequency" .zero Check.amount =
        .valid metrics.frequency := (Metric.amount_checked rfl).mp (given .frequency)
    have cpc : Checked.optional fields "cpc" .zero Check.amount = .valid metrics.cpc :=
      (Metric.amount_checked rfl).mp (given .cpc)
    have ctr : Checked.optional fields "ctr" .zero Check.amount = .valid metrics.ctr :=
      (Metric.amount_checked rfl).mp (given .ctr)
    unfold Metrics.ofFields
    rw [spend, clicks, reach, impressions, linkClicks, cost, frequency, cpc, ctr]
    rfl

/-- Figures that are measured are amounts. -/
structure Metrics.Sound (metrics : Metrics) : Prop where
  spend : metrics.spend.IsAmount
  cost : metrics.costPerInlineLinkClick.IsAmount
  frequency : metrics.frequency.IsAmount
  cpc : metrics.cpc.IsAmount
  ctr : metrics.ctr.IsAmount

/-- Each measured figure of a reading that has passed the check is an amount that has. -/
theorem Metrics.amounts_given {fields : Fields} {metrics : Metrics}
    (valid : Metrics.ofFields fields = .valid metrics) :
    Checked.optional fields "spend" .zero Check.amount = .valid metrics.spend ∧
      Checked.optional fields "cost_per_inline_link_click" .zero Check.amount =
        .valid metrics.costPerInlineLinkClick ∧
      Checked.optional fields "frequency" .zero Check.amount = .valid metrics.frequency ∧
      Checked.optional fields "cpc" .zero Check.amount = .valid metrics.cpc ∧
      Checked.optional fields "ctr" .zero Check.amount = .valid metrics.ctr := by
  have given := Metrics.of_fields_iff.mp valid
  exact ⟨(Metric.amount_checked rfl).mp (given .spend),
    (Metric.amount_checked rfl).mp (given .costPerInlineLinkClick),
    (Metric.amount_checked rfl).mp (given .frequency),
    (Metric.amount_checked rfl).mp (given .cpc), (Metric.amount_checked rfl).mp (given .ctr)⟩

/-- A reading that has passed the check is sound. -/
theorem Metrics.checked_sound {fields : Fields} {metrics : Metrics}
    (valid : Metrics.ofFields fields = .valid metrics) : metrics.Sound := by
  obtain ⟨spend, cost, frequency, cpc, ctr⟩ := Metrics.amounts_given valid
  exact ⟨optional_amount spend, optional_amount cost, optional_amount frequency,
    optional_amount cpc, optional_amount ctr⟩

/-- Sound figures are read back from the fields under their names, in every form in which values
stay legible. -/
theorem Metrics.read_again {known : Timestamp → Prop} {form : Value → Value}
    (legible : Legible known form) {metrics : Metrics} (sound : metrics.Sound) {fields : Fields}
    (given : ∀ metric : Metric,
      fields.get? (Vocabulary.word metric) = some (metrics.value metric).toValue) :
    Metrics.ofFields (fields.inForm form) = .valid metrics := by
  have amount {metric : Metric} {number : Double} (measured : metric.isCount = false)
      (is : metrics.value metric = .float number) (isAmount : number.IsAmount) :
      metric.checked (fields.inForm form) = .valid (metrics.value metric) := by
    have passes : Check.amount (form (.float number)) = .valid number := by
      rw [legible.float]
      exact isAmount.check
    rw [is]
    exact (Metric.amount_checked measured).mpr
      (optional_in_form _ ((given metric).trans (by rw [is]; rfl)) passes)
  have count {metric : Metric} {number : Nat} (counted : metric.isCount = true)
      (is : metrics.value metric = .int number) :
      metric.checked (fields.inForm form) = .valid (metrics.value metric) := by
    rw [is]
    exact (Metric.count_checked counted).mpr
      (optional_in_form _ ((given metric).trans (by rw [is]; rfl)) (legible.count number))
  refine Metrics.of_fields_iff.mpr fun metric => ?_
  cases metric with
  | spend => exact amount rfl rfl sound.spend
  | clicks | reach | impressions | inlineLinkClicks => exact count rfl rfl
  | costPerInlineLinkClick => exact amount rfl rfl sound.cost
  | frequency => exact amount rfl rfl sound.frequency
  | cpc => exact amount rfl rfl sound.cpc
  | ctr => exact amount rfl rfl sound.ctr

/-! ## Rules and snapshots -/

/-- The times of a rule are known. -/
structure Rule.Timed (known : Timestamp → Prop) (rule : Rule) : Prop where
  triggered : ∀ time ∈ rule.lastTriggered, known time
  created : ∀ time ∈ rule.createdAt, known time
  updated : ∀ time ∈ rule.updatedAt, known time

/-- The times of a snapshot are known. -/
structure Snapshot.Timed (known : Timestamp → Prop) (snapshot : Snapshot) : Prop where
  synced : known snapshot.syncedAt
  created : ∀ time ∈ snapshot.createdAt, known time
  updated : ∀ time ∈ snapshot.updatedAt, known time

/-- The figures are sound and the campaign is named. -/
structure Snapshot.Sound (snapshot : Snapshot) : Prop where
  metrics : snapshot.metrics.Sound
  named : snapshot.campaignId ≠ ""
  whole : Text.isWhole snapshot.campaignId = true

/-- A rule that is checked again is the same rule, under its name as that is checked. -/
theorem Rule.read_again {known : Timestamp → Prop} {form : Value → Value}
    (legible : Legible known form) {rule : Rule} (timed : rule.Timed known) {fields : Fields}
    (shown : fields.Include rule.toFields) {groups : Value → Checked (List ConditionGroup)}
    (sameGroups : groups (form (.list (rule.groups.map ConditionGroup.toValue))) =
      .valid rule.groups) :
    Rule.ofFieldsWith groups (fields.inForm form) =
      (fun name => { rule with name := name }) <$>
        (checkName (.text rule.name)).under (.field "name") := by
  have nameGiven : (fields.inForm form).get? "name" = some (.text rule.name) := by
    rw [Fields.get_in_form, ← legible.text, @shown "name" _ rfl]
    rfl
  unfold Rule.ofFieldsWith
  rw [required_read nameGiven,
    optional_in_form "description" (shown rfl) (legible.nullable_text rule.description),
    required_in_form "action" (shown rfl) (legible.choice rule.action),
    optional_in_form "action_value" (shown rfl) (legible.nullable_text rule.actionValue),
    required_in_form "id" (shown rfl) (legible.plain rule.id),
    optional_in_form "is_active" (shown rfl) (legible.flag rule.isActive),
    optional_in_form "trigger_count" (shown rfl) (legible.count rule.triggerCount),
    optional_in_form "last_triggered" (shown rfl) (legible.nullable_time timed.triggered),
    optional_in_form "created_by" (shown rfl) (legible.nullable_text rule.createdBy),
    optional_in_form "created_at" (shown rfl) (legible.nullable_time timed.created),
    optional_in_form "updated_at" (shown rfl) (legible.nullable_time timed.updated),
    optional_in_form "condition_groups" (shown rfl) sameGroups,
    optional_in_form "action_log_count" (shown rfl) (legible.nullable_int rule.logCount)]
  cases (checkName (.text rule.name)).under (.field "name") <;> rfl

/-- A text that has passed as one that is not empty is that text, which is whole. -/
theorem non_empty_valid {input : Value} {content : String}
    (valid : Check.nonEmptyText input = .valid content) :
    input = .text content ∧ content ≠ "" ∧ Text.isWhole content = true := by
  obtain ⟨given, isText, filled⟩ := Checked.and_then_valid.mp valid
  have whole : Text.isWhole given = true := by
    by_contra stray
    simp [Check.whole, stray, Checked.fault] at filled
  simp only [Check.whole, whole, if_true] at filled
  split at filled
  · cases filled
  · next nonEmpty =>
    cases filled
    cases input with
    | text other =>
      cases isText
      exact ⟨rfl, by simpa using nonEmpty, whole⟩
    | null | bool _ | int _ | float _ | time _ | list _ | record _ => cases isText

/-- Each part of a snapshot that has passed the check has passed its own. -/
theorem Snapshot.parts_given {setting : Setting} {fields : Fields} {snapshot : Snapshot}
    (valid : Snapshot.ofFields setting fields = .valid snapshot) :
    Metrics.ofFields fields = .valid snapshot.metrics ∧
      Checked.required fields "campaign_id" Check.nonEmptyText = .valid snapshot.campaignId ∧
      Checked.optional fields "synced_at" setting.now Check.time = .valid snapshot.syncedAt ∧
      Checked.optional fields "created_at" none (Checked.nullable Check.time) =
        .valid snapshot.createdAt ∧
      Checked.optional fields "updated_at" none (Checked.nullable Check.time) =
        .valid snapshot.updatedAt := by
  obtain ⟨_, updated, upToCreated, updatedGiven, rfl⟩ := Checked.seq_valid.mp valid
  obtain ⟨_, created, upToSynced, createdGiven, rfl⟩ := Checked.seq_valid.mp upToCreated
  obtain ⟨_, synced, upToName, syncedGiven, rfl⟩ := Checked.seq_valid.mp upToSynced
  obtain ⟨_, name, upToCampaign, _, rfl⟩ := Checked.seq_valid.mp upToName
  obtain ⟨_, campaignId, upToId, campaignGiven, rfl⟩ := Checked.seq_valid.mp upToCampaign
  obtain ⟨_, id, upToMetrics, _, rfl⟩ := Checked.seq_valid.mp upToId
  obtain ⟨metrics, metricsGiven, rfl⟩ := Checked.map_valid.mp upToMetrics
  exact ⟨metricsGiven, campaignGiven, syncedGiven, createdGiven, updatedGiven⟩

/-- A snapshot that has passed the check is sound. -/
theorem Snapshot.checked_sound {setting : Setting} {fields : Fields} {snapshot : Snapshot}
    (valid : Snapshot.ofFields setting fields = .valid snapshot) : snapshot.Sound := by
  obtain ⟨metrics, campaign, _⟩ := Snapshot.parts_given valid
  obtain ⟨_, passed⟩ := Checked.required_valid campaign
  obtain ⟨_, named, whole⟩ := non_empty_valid passed
  exact ⟨Metrics.checked_sound metrics, named, whole⟩

/-- A sound snapshot that is checked again is the same snapshot, at any moment, since all of its
fields are given. -/
theorem Snapshot.read_again {known : Timestamp → Prop} {form : Value → Value}
    (legible : Legible known form) {snapshot : Snapshot} (timed : snapshot.Timed known)
    (sound : snapshot.Sound) {fields : Fields} (shown : fields.Include snapshot.toFields)
    (setting : Setting) : Snapshot.ofFields setting (fields.inForm form) = .valid snapshot := by
  have metricsGiven : ∀ metric : Metric, fields.get? (Vocabulary.word metric) =
      some (snapshot.metrics.value metric).toValue := by
    intro metric
    cases metric <;> exact shown rfl
  have metrics := Metrics.read_again legible sound.metrics metricsGiven
  have campaign : Check.nonEmptyText (form (.text snapshot.campaignId)) =
      .valid snapshot.campaignId := by
    have filled : snapshot.campaignId.isEmpty = false := by simpa using sound.named
    simp [legible.text, Check.nonEmptyText, Check.text, Checked.andThen, Check.whole, sound.whole,
      filled]
  unfold Snapshot.ofFields
  rw [metrics, optional_in_form "id" (shown rfl) (legible.nullable_text snapshot.id),
    required_in_form "campaign_id" (shown rfl) campaign,
    optional_in_form "name" (shown rfl) (legible.plain snapshot.name),
    optional_in_form "synced_at" (shown rfl) (legible.time snapshot.syncedAt timed.synced),
    optional_in_form "created_at" (shown rfl) (legible.nullable_time timed.created),
    optional_in_form "updated_at" (shown rfl) (legible.nullable_time timed.updated)]
  rfl

/-! ## What is shown with logs -/

/-- What is shown of a rule is that rule with its logs, under its name as that is checked. -/
theorem RuleWithLogs.recheck_eq (shown : RuleWithLogs) :
    shown.recheck = (fun name => ⟨{ shown.rule with name := name }, shown.recentActions⟩) <$>
      (checkName (.text shown.rule.name)).under (.field "name") := by
  have timed : shown.rule.Timed fun _ => True := ⟨by simp, by simp, by simp⟩
  have again : Rule.ofFieldsWith (fun _ => .valid shown.rule.groups)
      (shown.rule.toFields.inForm id) = _ :=
    Rule.read_again legible_id timed (Fields.include_self _) rfl
  rw [Fields.in_form_id] at again
  rw [recheck, again]
  cases (checkName (.text shown.rule.name)).under (.field "name") <;> rfl

/-- What is shown of a rule whose name is sound is that rule with its logs. -/
theorem RuleWithLogs.recheck_sound {shown : RuleWithLogs} (name : SoundName shown.rule.name) :
    shown.recheck = .valid shown := by
  rw [recheck_eq, name.checked]
  rfl

/-- What is shown of a rule differs from it in the name at most. -/
theorem RuleWithLogs.recheck_valid {shown again : RuleWithLogs}
    (valid : shown.recheck = .valid again) :
    again.recentActions = shown.recentActions ∧
      ∃ name, again.rule = { shown.rule with name := name } := by
  rw [recheck_eq] at valid
  obtain ⟨name, _, rfl⟩ := Checked.map_valid.mp valid
  exact ⟨rfl, name, rfl⟩

/-- What is shown of a sound snapshot is that snapshot with its logs. -/
theorem SnapshotWithLogs.recheck_sound {shown : SnapshotWithLogs} (sound : shown.snapshot.Sound) :
    shown.recheck = .valid shown := by
  have timed : shown.snapshot.Timed fun _ => True := ⟨trivial, by simp, by simp⟩
  have again := Snapshot.read_again legible_id timed sound (Fields.include_self _)
    ⟨shown.snapshot.syncedAt, false⟩
  rw [Fields.in_form_id] at again
  rw [recheck, again]
  rfl

/-- What is shown of a snapshot is of its campaign, and its logs are not checked again. -/
theorem SnapshotWithLogs.recheck_valid {shown again : SnapshotWithLogs}
    (valid : shown.recheck = .valid again) :
    again.logs = shown.logs ∧ again.snapshot.campaignId = shown.snapshot.campaignId := by
  obtain ⟨snapshot, checked, rfl⟩ := Checked.map_valid.mp valid
  refine ⟨rfl, ?_⟩
  have campaign := (Snapshot.parts_given checked).2.1
  have given : shown.snapshot.toFields.get? "campaign_id" =
      some (.text shown.snapshot.campaignId) := rfl
  rw [required_read given] at campaign
  have same := (non_empty_valid (Checked.under_valid.mp campaign)).1
  exact (Value.text.inj same).symm

end AdRules

import AdRules.Campaign
import AdRules.Proofs.Rereading

/-!
# Records that are validated again

Every record that passes its check passes it again when it is written out, and is the same record.
-/

namespace AdRules

/-! ## Conditions -/

/-- A term that passes the check was read from a text, and is shown as that text. -/
theorem term_valid {α : Type} [Vocabulary α] [Vocabulary.Lawful α] {label : String} {input : Value}
    {term : Term α} (valid : Term.check label input = .valid term) :
    ∃ content, term.toValue = .text content ∧ Term.read (.text content) = term := by
  cases input with
  | text content =>
    cases valid
    refine ⟨content, ?_, rfl⟩
    unfold Term.read
    split
    · next member named => exact ((Vocabulary.of_value_iff _ member).mp named).symm
    · rfl
  | null | bool _ | int _ | float _ | time _ | list _ | record _ => cases valid

/-- A term is shown as the text that it was read from, known word or not, and read again as the
same. -/
theorem Rereads.term {α : Type} [Vocabulary α] [Vocabulary.Lawful α] (label : String) :
    Rereads (Term.check (α := α) label) (Term.check label) Term.toValue := by
  intro input term writable valid
  obtain ⟨content, isText, isTerm⟩ := term_valid valid
  rw [isText, legible_written.text, Term.check, isTerm]

/-- The threshold of a draft is finite, and is shown as the double that it is. -/
theorem Rereads.threshold :
    Rereads ConditionDraft.checkThreshold ConditionDraft.checkThreshold .float := by
  intro input threshold writable valid
  obtain ⟨value, _, finite⟩ := Checked.and_then_valid.mp valid
  split at finite
  · next isFinite =>
    cases finite
    exact Checked.and_then_valid.mpr ⟨threshold, rfl, if_pos isFinite⟩
  · cases finite

/-- The draft of a condition passes again: its words are shown as they are, and its threshold as a
number. -/
theorem ConditionDraft.rereads (setting later : Setting) :
    Rereads (ConditionDraft.check setting) (ConditionDraft.check later) ConditionDraft.toValue := by
  refine Rereads.model ?_ setting later _
  intro fields draft writable valid
  obtain ⟨_, threshold, upToComparison, thresholdGiven, rfl⟩ := Checked.seq_valid.mp valid
  obtain ⟨_, comparison, upToMetric, comparisonGiven, rfl⟩ := Checked.seq_valid.mp upToComparison
  obtain ⟨metric, metricGiven, rfl⟩ := Checked.map_valid.mp upToMetric
  unfold ConditionDraft.ofFields
  rw [required_in_form "metric" rfl (Rereads.choice.required writable metricGiven),
    required_in_form "operator" rfl (Rereads.choice.required writable comparisonGiven),
    required_in_form "threshold" rfl (Rereads.threshold.required writable thresholdGiven)]
  rfl

/-- The draft of a group passes again, with a junction that is shown even where it was left out. -/
theorem GroupDraft.rereads (setting later : Setting) :
    Rereads (GroupDraft.check setting) (GroupDraft.check later) GroupDraft.toValue := by
  refine Rereads.model ?_ setting later _
  intro fields draft writable valid
  obtain ⟨_, conditions, upToJunction, conditionsGiven, rfl⟩ := Checked.seq_valid.mp valid
  obtain ⟨junction, junctionGiven, rfl⟩ := Checked.map_valid.mp upToJunction
  have sameConditions := (ConditionDraft.rereads setting later).some_items
  unfold GroupDraft.ofFields
  rw [optional_in_form "operator" rfl (Rereads.choice.optional writable junctionGiven rfl),
    required_in_form "conditions" rfl (sameConditions.required writable conditionsGiven)]
  rfl

/-- A text that may be missing is finite. -/
theorem text_finite (content : Option String) :
    (Value.ofText? content).finitePart = .ofText? content := by
  cases content <;> rfl

/-- A term that passes the check is finite. -/
theorem term_finite {α : Type} [Vocabulary α] [Vocabulary.Lawful α] {fields : Fields}
    {name label : String} {term : Term α}
    (given : Checked.required fields name (Term.check label) = .valid term) :
    term.toValue.finitePart = term.toValue := by
  obtain ⟨_, valid⟩ := Checked.required_valid given
  obtain ⟨_, isText, _⟩ := term_valid valid
  rw [isText]
  rfl

/-- A stored condition passes again, with words that nobody knows and a threshold that may be no
number. -/
theorem Condition.rereads (setting later : Setting) :
    Rereads (Condition.check setting) (Condition.check later) Condition.toValue := by
  refine Rereads.model ?_ setting later _
  intro fields condition writable valid
  obtain ⟨_, order, upToThreshold, orderGiven, rfl⟩ := Checked.seq_valid.mp valid
  obtain ⟨_, threshold, upToComparison, thresholdGiven, rfl⟩ := Checked.seq_valid.mp upToThreshold
  obtain ⟨_, comparison, upToMetric, comparisonGiven, rfl⟩ := Checked.seq_valid.mp upToComparison
  obtain ⟨_, metric, upToGroup, metricGiven, rfl⟩ := Checked.seq_valid.mp upToMetric
  obtain ⟨_, groupId, upToId, groupGiven, rfl⟩ := Checked.seq_valid.mp upToGroup
  obtain ⟨id, idGiven, rfl⟩ := Checked.map_valid.mp upToId
  rw [text_finite id, text_finite groupId, term_finite metricGiven, term_finite comparisonGiven]
  unfold Condition.ofFields
  rw [optional_in_form "id" rfl (Rereads.nullable_text.optional writable idGiven rfl),
    optional_in_form "group_id" rfl (Rereads.nullable_text.optional writable groupGiven rfl),
    required_in_form "metric" rfl ((Rereads.term _).required writable metricGiven),
    required_in_form "operator" rfl ((Rereads.term _).required writable comparisonGiven),
    required_in_form "threshold" rfl (Rereads.float.required writable thresholdGiven),
    optional_in_form "order" rfl (Rereads.int.optional writable orderGiven rfl)]
  rfl

/-- A stored group passes again, with its conditions. -/
theorem ConditionGroup.rereads (setting later : Setting) :
    Rereads (ConditionGroup.check setting) (ConditionGroup.check later)
      ConditionGroup.toValue := by
  refine Rereads.model ?_ setting later _
  intro fields group writable valid
  obtain ⟨_, conditions, upToOrder, conditionsGiven, rfl⟩ := Checked.seq_valid.mp valid
  obtain ⟨_, order, upToJunction, orderGiven, rfl⟩ := Checked.seq_valid.mp upToOrder
  obtain ⟨_, junction, upToRule, junctionGiven, rfl⟩ := Checked.seq_valid.mp upToJunction
  obtain ⟨_, ruleId, upToId, ruleGiven, rfl⟩ := Checked.seq_valid.mp upToRule
  obtain ⟨id, idGiven, rfl⟩ := Checked.map_valid.mp upToId
  have sameConditions := (Condition.rereads setting later).items
  unfold ConditionGroup.ofFieldsWith
  rw [optional_in_form "id" rfl (Rereads.nullable_text.optional writable idGiven rfl),
    optional_in_form "rule_id" rfl (Rereads.nullable_text.optional writable ruleGiven rfl),
    optional_in_form "operator" rfl ((Rereads.term _).optional writable junctionGiven rfl),
    optional_in_form "order" rfl (Rereads.int.optional writable orderGiven rfl),
    optional_in_form "conditions" rfl (sameConditions.optional writable conditionsGiven rfl)]
  rfl

/-! ## Rules -/

/-- The draft of a rule passes again. Its name was stripped, and stripping it once more changes
nothing. -/
theorem RuleDraft.rereads (setting later : Setting) :
    Rereads (RuleDraft.check setting) (RuleDraft.check later) RuleDraft.toValue := by
  refine Rereads.model ?_ setting later _
  intro fields draft writable valid
  obtain ⟨_, groups, upToActive, groupsGiven, rfl⟩ := Checked.seq_valid.mp valid
  obtain ⟨_, isActive, upToValue, activeGiven, rfl⟩ := Checked.seq_valid.mp upToActive
  obtain ⟨_, actionValue, upToAction, valueGiven, rfl⟩ := Checked.seq_valid.mp upToValue
  obtain ⟨_, action, upToDescription, actionGiven, rfl⟩ := Checked.seq_valid.mp upToAction
  obtain ⟨_, description, upToName, descriptionGiven, rfl⟩ := Checked.seq_valid.mp upToDescription
  obtain ⟨name, nameGiven, rfl⟩ := Checked.map_valid.mp upToName
  have sameGroups := (GroupDraft.rereads setting later).some_items
  have text := Rereads.nullable_text
  unfold RuleDraft.ofFields
  rw [required_in_form "name" rfl (Rereads.name.required writable nameGiven),
    optional_in_form "description" rfl (text.optional writable descriptionGiven rfl),
    required_in_form "action" rfl (Rereads.choice.required writable actionGiven),
    optional_in_form "action_value" rfl (text.optional writable valueGiven rfl),
    optional_in_form "is_active" rfl (Rereads.bool.optional writable activeGiven rfl),
    required_in_form "condition_groups" rfl (sameGroups.required writable groupsGiven)]
  rfl

/-- A sound name that may be missing is read again. -/
theorem Rereads.nullable_name :
    Rereads (Checked.nullable checkName) (Checked.nullable checkName) .ofText? := by
  intro input result writable valid
  have again := Rereads.name.nullable (Checked.fault_invalid _ _) writable valid
  cases result <;> exact again

/-- A change of a rule passes again, with null for what it leaves alone. That it forbids other
fields does not matter, since it is shown without any. -/
theorem RuleChange.rereads (setting later : Setting) :
    Rereads (RuleChange.check setting) (RuleChange.check later) RuleChange.toValue := by
  refine Rereads.model ?_ setting later _
  intro fields change writable valid
  obtain ⟨_, _, upToGroups, _, rfl⟩ := Checked.seq_valid.mp valid
  obtain ⟨_, groups, upToActive, groupsGiven, rfl⟩ := Checked.seq_valid.mp upToGroups
  obtain ⟨_, isActive, upToValue, activeGiven, rfl⟩ := Checked.seq_valid.mp upToActive
  obtain ⟨_, actionValue, upToAction, valueGiven, rfl⟩ := Checked.seq_valid.mp upToValue
  obtain ⟨_, action, upToDescription, actionGiven, rfl⟩ := Checked.seq_valid.mp upToAction
  obtain ⟨_, description, upToName, descriptionGiven, rfl⟩ := Checked.seq_valid.mp upToDescription
  obtain ⟨name, nameGiven, rfl⟩ := Checked.map_valid.mp upToName
  have sameGroups := (GroupDraft.rereads setting later).some_items.nullable
    (Checked.fault_invalid _ _)
  have text := Rereads.nullable_text
  have sameAction := Rereads.choice (α := Action).nullable (Checked.fault_invalid _ _)
  have sameFlag := Rereads.bool.nullable (Checked.fault_invalid _ _)
  unfold RuleChange.ofFields
  rw [optional_in_form "name" rfl (Rereads.nullable_name.optional writable nameGiven rfl),
    optional_in_form "description" rfl (text.optional writable descriptionGiven rfl),
    optional_in_form "action" rfl (sameAction.optional writable actionGiven rfl),
    optional_in_form "action_value" rfl (text.optional writable valueGiven rfl),
    optional_in_form "is_active" rfl (sameFlag.optional writable activeGiven rfl),
    optional_in_form "condition_groups" rfl (sameGroups.optional writable groupsGiven rfl)]
  rfl

/-! ## Times of a record -/

section Times

variable {fields : Fields} (writable : (Value.record fields).Writable) {name : String}

include writable

/-- The time in a field can be written, when its default can. -/
theorem moment_writable {default moment : Timestamp} (ready : default.Writable)
    (valid : Checked.optional fields name default Check.time = .valid moment) :
    moment.Writable := by
  rcases Checked.optional_found valid with ⟨_, rfl⟩ | ⟨input, found, passed⟩
  · exact ready
  · exact (Value.field_writable writable found).checked passed

/-- The time in a field that may be missing can be written. -/
theorem moments_writable {moment : Option Timestamp}
    (valid : Checked.optional fields name none (Checked.nullable Check.time) = .valid moment) :
    ∀ time ∈ moment, time.Writable := by
  rintro time rfl
  rcases Checked.optional_found valid with ⟨_, absent⟩ | ⟨input, found, passed⟩
  · cases absent
  · exact (Value.field_writable writable found).checked (Checked.nullable_valid passed)

end Times

/-- Among the fields of a record the rule is read again. -/
theorem Rule.fields_reread {setting later : Setting} {fields shown : Fields} {rule : Rule}
    (writable : (Value.record fields).Writable)
    (valid : Rule.ofFields setting fields = .valid rule) (shows : shown.Include rule.toFields) :
    Rule.ofFields later (shown.inForm Value.written) = .valid rule := by
  obtain ⟨_, logCount, upToGroups, _, rfl⟩ := Checked.seq_valid.mp valid
  obtain ⟨_, groups, upToUpdated, groupsGiven, rfl⟩ := Checked.seq_valid.mp upToGroups
  obtain ⟨_, updated, upToCreated, updatedGiven, rfl⟩ := Checked.seq_valid.mp upToUpdated
  obtain ⟨_, created, upToAuthor, createdGiven, rfl⟩ := Checked.seq_valid.mp upToCreated
  obtain ⟨_, author, upToTriggered, _, rfl⟩ := Checked.seq_valid.mp upToAuthor
  obtain ⟨_, triggered, upToCount, triggeredGiven, rfl⟩ := Checked.seq_valid.mp upToTriggered
  obtain ⟨_, triggerCount, upToActive, _, rfl⟩ := Checked.seq_valid.mp upToCount
  obtain ⟨_, isActive, upToId, _, rfl⟩ := Checked.seq_valid.mp upToActive
  obtain ⟨_, id, upToValue, _, rfl⟩ := Checked.seq_valid.mp upToId
  obtain ⟨_, actionValue, upToAction, _, rfl⟩ := Checked.seq_valid.mp upToValue
  obtain ⟨_, action, upToDescription, _, rfl⟩ := Checked.seq_valid.mp upToAction
  obtain ⟨_, description, upToName, _, rfl⟩ := Checked.seq_valid.mp upToDescription
  obtain ⟨name, nameGiven, rfl⟩ := Checked.map_valid.mp upToName
  obtain ⟨_, namePassed⟩ := Checked.required_valid nameGiven
  have sameGroups := (ConditionGroup.rereads setting later).items.optional writable groupsGiven rfl
  refine (Rule.read_again legible_written ⟨moments_writable writable triggeredGiven,
    moments_writable writable createdGiven, moments_writable writable updatedGiven⟩ shows
    sameGroups).trans ?_
  rw [(name_sound namePassed).checked]
  rfl

/-- A stored rule passes again, with its groups and its moments. -/
theorem Rule.rereads (setting later : Setting) :
    Rereads (Rule.check setting) (Rule.check later) Rule.toValue :=
  Rereads.model (fun _ _ writable valid =>
    Rule.fields_reread writable valid (Fields.include_self _)) setting later _

/-! ## Readings and logs -/

/-- Metrics pass again. Every figure is shown, so no default is needed, and none that passed is
negative. -/
theorem Metrics.rereads (setting later : Setting) :
    Rereads (Metrics.check setting) (Metrics.check later) Metrics.toValue := by
  refine Rereads.model ?_ setting later _
  intro fields metrics writable valid
  refine Metrics.read_again legible_written (Metrics.checked_sound valid) ?_
  intro metric
  cases metric <;> rfl

/-- Among the fields of a record the snapshot is read again. -/
theorem Snapshot.fields_reread {setting later : Setting} (now : setting.now.Writable)
    {fields shown : Fields} {snapshot : Snapshot} (writable : (Value.record fields).Writable)
    (valid : Snapshot.ofFields setting fields = .valid snapshot)
    (shows : shown.Include snapshot.toFields) :
    Snapshot.ofFields later (shown.inForm Value.written) = .valid snapshot := by
  obtain ⟨_, _, synced, created, updated⟩ := Snapshot.parts_given valid
  exact Snapshot.read_again legible_written ⟨moment_writable writable now synced,
    moments_writable writable created, moments_writable writable updated⟩
    (Snapshot.checked_sound valid) shows later

section Now

variable {setting : Setting} (now : setting.now.Writable) (later : Setting)

include now

/-- A reading passes again at a later time, as its moment is shown and need not be filled in. -/
theorem Snapshot.rereads :
    Rereads (Snapshot.check setting) (Snapshot.check later) Snapshot.toValue :=
  Rereads.model (fun _ _ writable valid =>
    Snapshot.fields_reread now writable valid (Fields.include_self _)) setting later _

/-- A log passes again at a later time, for the same reason. -/
theorem ActionLog.rereads :
    Rereads (ActionLog.check setting) (ActionLog.check later) ActionLog.toValue := by
  refine Rereads.model ?_ setting later _
  intro fields log writable valid
  obtain ⟨_, campaignName, upToRuleName, campaignNameGiven, rfl⟩ := Checked.seq_valid.mp valid
  obtain ⟨_, ruleName, upToCompleted, ruleNameGiven, rfl⟩ := Checked.seq_valid.mp upToRuleName
  obtain ⟨_, completed, upToTriggered, completedGiven, rfl⟩ := Checked.seq_valid.mp upToCompleted
  obtain ⟨_, triggered, upToMetrics, triggeredGiven, rfl⟩ := Checked.seq_valid.mp upToTriggered
  obtain ⟨_, metrics, upToStatus, metricsGiven, rfl⟩ := Checked.seq_valid.mp upToMetrics
  obtain ⟨_, status, upToValue, statusGiven, rfl⟩ := Checked.seq_valid.mp upToStatus
  obtain ⟨_, actionValue, upToAction, valueGiven, rfl⟩ := Checked.seq_valid.mp upToValue
  obtain ⟨_, action, upToCampaign, actionGiven, rfl⟩ := Checked.seq_valid.mp upToAction
  obtain ⟨_, campaignId, upToRule, campaignGiven, rfl⟩ := Checked.seq_valid.mp upToCampaign
  obtain ⟨_, ruleId, upToId, ruleGiven, rfl⟩ := Checked.seq_valid.mp upToRule
  obtain ⟨id, idGiven, rfl⟩ := Checked.map_valid.mp upToId
  have text := Rereads.nullable_text
  have sameMetrics := Metrics.rereads setting later
  have triggeredAgain :=
    Rereads.time.optional writable triggeredGiven (legible_written.time _ now)
  unfold ActionLog.ofFields ActionLog.ofFieldsWith
  rw [optional_in_form "id" rfl (text.optional writable idGiven rfl),
    required_in_form "rule_id" rfl (Rereads.text.required writable ruleGiven),
    required_in_form "campaign_id" rfl (Rereads.text.required writable campaignGiven),
    required_in_form "action" rfl (Rereads.choice.required writable actionGiven),
    optional_in_form "action_value" rfl (Rereads.text.optional writable valueGiven rfl),
    optional_in_form "status" rfl (Rereads.choice.optional writable statusGiven rfl),
    required_in_form "metrics" rfl (sameMetrics.required writable metricsGiven),
    optional_in_form "triggered_at" rfl triggeredAgain,
    optional_in_form "completed_at" rfl
      (Rereads.nullable_time.optional writable completedGiven rfl),
    optional_in_form "rule_name" rfl (text.optional writable ruleNameGiven rfl),
    optional_in_form "campaign_name" rfl (text.optional writable campaignNameGiven rfl)]
  rfl

/-- Logs under some name in the record of what they belong to are read again. -/
theorem logs_reread {fields part : Fields} (writable : (Value.record fields).Writable)
    {name : String} (noPart : part.get? name = none) {logs : List ActionLog}
    (valid : Checked.optional fields name [] (Checked.items (ActionLog.check setting)) =
      .valid logs) :
    Checked.optional
      (Fields.inForm Value.written (part ++ [(name, .list (logs.map ActionLog.toValue))])) name []
      (Checked.items (ActionLog.check later)) = .valid logs := by
  have given : Fields.get? (part ++ [(name, .list (logs.map ActionLog.toValue))]) name =
      some (.list (logs.map ActionLog.toValue)) := by
    rw [Fields.get?, Option.map_eq_none_iff] at noPart
    simp [Fields.get?, List.find?_append, noPart]
  have sameLogs := (ActionLog.rereads now later).items
  exact optional_in_form name given (sameLogs.optional writable valid rfl)

/-- A rule with its logs passes again. -/
theorem RuleWithLogs.rereads :
    Rereads (RuleWithLogs.check setting) (RuleWithLogs.check later) RuleWithLogs.toValue := by
  refine Rereads.model ?_ setting later _
  intro fields shown writable valid
  obtain ⟨_, logs, ruleGiven, logsGiven, rfl⟩ := Checked.seq_valid.mp valid
  obtain ⟨rule, rulePassed, rfl⟩ := Checked.map_valid.mp ruleGiven
  unfold RuleWithLogs.ofFields
  rw [Rule.fields_reread writable rulePassed (Fields.include_append _ _),
    logs_reread now later writable rfl logsGiven]
  rfl

/-- A reading with its logs passes again, each of them in its own right. -/
theorem SnapshotWithLogs.rereads :
    Rereads (SnapshotWithLogs.check setting) (SnapshotWithLogs.check later)
      SnapshotWithLogs.toValue := by
  refine Rereads.model ?_ setting later _
  intro fields shown writable valid
  obtain ⟨_, logs, snapshotGiven, logsGiven, rfl⟩ := Checked.seq_valid.mp valid
  obtain ⟨snapshot, snapshotPassed, rfl⟩ := Checked.map_valid.mp snapshotGiven
  unfold SnapshotWithLogs.ofFields
  rw [Snapshot.fields_reread now writable snapshotPassed (Fields.include_append _ _),
    logs_reread now later writable rfl logsGiven]
  rfl

/-! ## Summaries -/

/-- So does the summary of a synchronisation, with a campaign or with none. -/
theorem SyncResult.rereads :
    Rereads (SyncResult.check setting) (SyncResult.check later) SyncResult.toValue := by
  refine Rereads.model ?_ setting later _
  intro fields summary writable valid
  obtain ⟨_, completed, upToStarted, completedGiven, rfl⟩ := Checked.seq_valid.mp valid
  obtain ⟨_, started, upToLogs, startedGiven, rfl⟩ := Checked.seq_valid.mp upToStarted
  obtain ⟨_, logs, upToCount, logsGiven, rfl⟩ := Checked.seq_valid.mp upToLogs
  obtain ⟨_, count, upToCampaign, countGiven, rfl⟩ := Checked.seq_valid.mp upToCount
  obtain ⟨_, campaign, upToSuccess, campaignGiven, rfl⟩ := Checked.seq_valid.mp upToCampaign
  obtain ⟨success, successGiven, rfl⟩ := Checked.map_valid.mp upToSuccess
  have sameCampaign := (Snapshot.rereads now later).nullable (Checked.fault_invalid _ _)
  have sameLogs := (ActionLog.rereads now later).items
  have time := Rereads.nullable_time
  unfold SyncResult.ofFields
  rw [required_in_form "success" rfl (Rereads.bool.required writable successGiven),
    optional_in_form "campaign" rfl (sameCampaign.optional writable campaignGiven rfl),
    optional_in_form "executed_actions" rfl (Rereads.int.optional writable countGiven rfl),
    optional_in_form "action_logs" rfl (sameLogs.optional writable logsGiven rfl),
    optional_in_form "started_at" rfl (time.optional writable startedGiven rfl),
    optional_in_form "completed_at" rfl (time.optional writable completedGiven rfl)]
  rfl

/-- The summary of a manual run passes again, with all its logs. -/
theorem RunResult.rereads :
    Rereads (RunResult.check setting) (RunResult.check later) RunResult.toValue := by
  refine Rereads.model ?_ setting later _
  intro fields summary writable valid
  obtain ⟨_, logs, upToCount, logsGiven, rfl⟩ := Checked.seq_valid.mp valid
  obtain ⟨_, count, upToCampaign, countGiven, rfl⟩ := Checked.seq_valid.mp upToCount
  obtain ⟨_, campaignId, upToSuccess, campaignGiven, rfl⟩ := Checked.seq_valid.mp upToCampaign
  obtain ⟨success, successGiven, rfl⟩ := Checked.map_valid.mp upToSuccess
  have sameLogs := (ActionLog.rereads now later).items
  unfold RunResult.ofFields
  rw [optional_in_form "success" rfl (Rereads.bool.optional writable successGiven rfl),
    required_in_form "campaign_id" rfl (Rereads.text.required writable campaignGiven),
    optional_in_form "executed_actions" rfl (Rereads.int.optional writable countGiven rfl),
    optional_in_form "action_logs" rfl (sameLogs.optional writable logsGiven rfl)]
  rfl

end Now

/-! ## All records -/

/-- What any of the fourteen checks of records has passed, in whatever spelling, is shown as a
record that, written out, passes the same check at any later time as what it was. -/
theorem records_reread {setting : Setting} (now : setting.now.Writable) (later : Setting) :
    Rereads (Metrics.check setting) (Metrics.check later) Metrics.toValue ∧
      Rereads (Snapshot.check setting) (Snapshot.check later) Snapshot.toValue ∧
      Rereads (ConditionDraft.check setting) (ConditionDraft.check later)
        ConditionDraft.toValue ∧
      Rereads (Condition.check setting) (Condition.check later) Condition.toValue ∧
      Rereads (GroupDraft.check setting) (GroupDraft.check later) GroupDraft.toValue ∧
      Rereads (ConditionGroup.check setting) (ConditionGroup.check later)
        ConditionGroup.toValue ∧
      Rereads (RuleDraft.check setting) (RuleDraft.check later) RuleDraft.toValue ∧
      Rereads (RuleChange.check setting) (RuleChange.check later) RuleChange.toValue ∧
      Rereads (Rule.check setting) (Rule.check later) Rule.toValue ∧
      Rereads (ActionLog.check setting) (ActionLog.check later) ActionLog.toValue ∧
      Rereads (RuleWithLogs.check setting) (RuleWithLogs.check later) RuleWithLogs.toValue ∧
      Rereads (SnapshotWithLogs.check setting) (SnapshotWithLogs.check later)
        SnapshotWithLogs.toValue ∧
      Rereads (SyncResult.check setting) (SyncResult.check later) SyncResult.toValue ∧
      Rereads (RunResult.check setting) (RunResult.check later) RunResult.toValue :=
  ⟨Metrics.rereads setting later, Snapshot.rereads now later,
    ConditionDraft.rereads setting later, Condition.rereads setting later,
    GroupDraft.rereads setting later, ConditionGroup.rereads setting later,
    RuleDraft.rereads setting later, RuleChange.rereads setting later, Rule.rereads setting later,
    ActionLog.rereads now later, RuleWithLogs.rereads now later,
    SnapshotWithLogs.rereads now later, SyncResult.rereads now later, RunResult.rereads now later⟩

/-- The input passes the first check, and the record that it gives is shown as a value that passes
the second one as the same record. -/
def PassesAgain {α : Type} (first second : Value → Checked α) (shown : α → Value)
    (input : Value) : Prop :=
  ∃ record, first input = .valid record ∧ second (shown record).written = .valid record

/-- What reads again lets every accepted input pass again. -/
theorem Rereads.passes_again {α : Type} {first second : Value → Checked α} {shown : α → Value}
    (rereads : Rereads first second shown) {input : Value} (writable : input.Writable)
    (accepted : (first input).value?.isSome = true) : PassesAgain first second shown input := by
  cases passed : first input with
  | valid record => exact ⟨record, passed, rereads writable passed⟩
  | invalid issues =>
    rw [passed] at accepted
    cases accepted

/-- Figures in lax spelling: a text, a double without a fraction and a truth value. -/
def laxFigures : Fields :=
  [("spend", .text " 12.5 "), ("clicks", .float (Double.ofInt 3)), ("reach", .bool true)]

/-- A snapshot in lax spelling: one of its times is a count of seconds. -/
def laxSnapshot : Fields :=
  laxFigures ++ [("campaign_id", .text "c1"), ("synced_at", .int 86400), ("id", .null)]

/-- A log in lax spelling: its metrics are figures in lax spelling. -/
def laxLog : Value :=
  .record
    [("rule_id", .text "r1"), ("campaign_id", .text "c1"), ("action", .text "pause_campaign"),
     ("metrics", .record laxFigures), ("triggered_at", .text "86400")]

/-- A stored condition in lax spelling: it compares in a way nobody knows, with no number. -/
def laxCondition : Value :=
  .record
    [("metric", .text "spend"), ("operator", .text "above"), ("threshold", .text "nan"),
     ("order", .bool true)]

/-- A drafted condition in lax spelling. -/
def laxConditionDraft : Value :=
  .record [("metric", .text "spend"), ("operator", .text "gt"), ("threshold", .text "1_0.5")]

/-- A drafted group. -/
def laxGroupDraft : Value := .record [("conditions", .list [laxConditionDraft])]

/-- A stored group. -/
def laxGroup : Value := .record [("conditions", .list [laxCondition])]

/-- A rule in lax spelling: its name has blanks around it, its flags and numbers are texts, and one
of its times is a count. -/
def laxRule : Fields :=
  [("name", .text "  Cap "), ("action", .text "pause_campaign"), ("id", .text "r1"),
   ("is_active", .text "yes"), ("trigger_count", .text "3"),
   ("created_at", .time ⟨0, some 7200000000⟩), ("updated_at", .int 86400),
   ("condition_groups", .list [laxGroup])]

/-- Every record in lax spelling passes its check, and so does what it is shown as. There is a
record for each of the fourteen models. -/
theorem lax_records_reread :
    let setting : Setting := ⟨⟨0, none⟩, false⟩
    setting.now.Writable ∧
      PassesAgain (Metrics.check setting) (Metrics.check setting) Metrics.toValue
        (.record laxFigures) ∧
      PassesAgain (Snapshot.check setting) (Snapshot.check setting) Snapshot.toValue
        (.record laxSnapshot) ∧
      PassesAgain (ConditionDraft.check setting) (ConditionDraft.check setting)
        ConditionDraft.toValue laxConditionDraft ∧
      PassesAgain (Condition.check setting) (Condition.check setting) Condition.toValue
        laxCondition ∧
      PassesAgain (GroupDraft.check setting) (GroupDraft.check setting) GroupDraft.toValue
        laxGroupDraft ∧
      PassesAgain (ConditionGroup.check setting) (ConditionGroup.check setting)
        ConditionGroup.toValue laxGroup ∧
      PassesAgain (RuleDraft.check setting) (RuleDraft.check setting) RuleDraft.toValue
        (.record [("name", .text " Cap "), ("action", .text "pause_campaign"),
          ("is_active", .int 0), ("condition_groups", .list [laxGroupDraft])]) ∧
      PassesAgain (RuleChange.check setting) (RuleChange.check setting) RuleChange.toValue
        (.record [("name", .text " Cap "), ("is_active", .text "off")]) ∧
      PassesAgain (Rule.check setting) (Rule.check setting) Rule.toValue (.record laxRule) ∧
      PassesAgain (ActionLog.check setting) (ActionLog.check setting) ActionLog.toValue laxLog ∧
      PassesAgain (RuleWithLogs.check setting) (RuleWithLogs.check setting) RuleWithLogs.toValue
        (.record (laxRule ++ [("recent_actions", .list [laxLog])])) ∧
      PassesAgain (SnapshotWithLogs.check setting) (SnapshotWithLogs.check setting)
        SnapshotWithLogs.toValue (.record (laxSnapshot ++ [("action_logs", .list [laxLog])])) ∧
      PassesAgain (SyncResult.check setting) (SyncResult.check setting) SyncResult.toValue
        (.record [("success", .text "true"), ("campaign", .record laxSnapshot),
          ("executed_actions", .text "1"), ("action_logs", .list [laxLog])]) ∧
      PassesAgain (RunResult.check setting) (RunResult.check setting) RunResult.toValue
        (.record [("success", .int 1), ("campaign_id", .text "c1"),
          ("action_logs", .list [laxLog])]) := by
  have now : Timestamp.Writable ⟨0, none⟩ := ⟨by decide, Timestamp.no_offset⟩
  have created : Timestamp.Writable ⟨0, some 7200000000⟩ := by
    refine ⟨by decide, ?_⟩
    rintro _ ⟨⟩
    exact ⟨120, by decide, by decide⟩
  have timeless {input : Value} (none : input.times = []) : input.Writable := by
    intro time member
    rw [none] at member
    cases member
  have timed {input : Value} (one : input.times = [⟨0, some 7200000000⟩]) : input.Writable := by
    intro time member
    rw [one] at member
    exact List.mem_singleton.mp member ▸ created
  obtain ⟨metrics, snapshot, conditionDraft, condition, groupDraft, group, ruleDraft, change, rule,
    log, ruleWithLogs, snapshotWithLogs, syncResult, runResult⟩ :=
    @records_reread ⟨⟨0, none⟩, false⟩ now ⟨⟨0, none⟩, false⟩
  exact ⟨now, metrics.passes_again (timeless rfl) (by decide +kernel),
    snapshot.passes_again (timeless rfl) (by decide +kernel),
    conditionDraft.passes_again (timeless rfl) (by decide +kernel),
    condition.passes_again (timeless rfl) (by decide +kernel),
    groupDraft.passes_again (timeless rfl) (by decide +kernel),
    group.passes_again (timeless rfl) (by decide +kernel),
    ruleDraft.passes_again (timeless rfl) (by decide +kernel),
    change.passes_again (timeless rfl) (by decide +kernel),
    rule.passes_again (timed rfl) (by decide +kernel),
    log.passes_again (timeless rfl) (by decide +kernel),
    ruleWithLogs.passes_again (timed rfl) (by decide +kernel),
    snapshotWithLogs.passes_again (timeless rfl) (by decide +kernel),
    syncResult.passes_again (timeless rfl) (by decide +kernel),
    runResult.passes_again (timeless rfl) (by decide +kernel)⟩

end AdRules

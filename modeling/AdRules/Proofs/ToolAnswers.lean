import AdRules.Proofs.Deletion
import AdRules.Proofs.FiniteMetrics
import AdRules.Proofs.SafeReadings
import AdRules.Proofs.ShownValues
import AdRules.Proofs.TimeOrder

/-!
# What the assistant's tools answer

A tool of an application never fails. In every state that a run reaches the three tools that read
find what they read, so an error is reported only where no snapshot is stored yet, and by a
synchronisation that fails. All numbers in an answer are finite, except that logs may show the
figures of a manual run, which are not checked for that.
-/

namespace AdRules

variable {σ τ α β : Type}

/-! ## Operations that have a value -/

/-- Started where `holds` holds, the operation has a value of the kind that `gives` says, and ends
where it holds. -/
def Act.Gives (holds : σ → Prop) (gives : α → Prop) (action : Act σ α) : Prop :=
  ∀ state, holds state → ∃ value after, action state = .ok value after ∧ gives value ∧ holds after

namespace Act.Gives

variable {holds : σ → Prop} {gives : α → Prop} {then_ : β → Prop}

/-- An operation that only gives a value gives it in every state. -/
theorem pure {value : α} (given : gives value) : (Pure.pure value : Act σ α).Gives holds gives :=
  fun state held => ⟨value, state, rfl, given, held⟩

/-- The second operation is handed what the first one gives. -/
theorem bind {action : Act σ α} {next : α → Act σ β} (first : action.Gives holds gives)
    (rest : ∀ value, gives value → (next value).Gives holds then_) :
    (action >>= next).Gives holds then_ := by
  intro state held
  obtain ⟨value, between, ran, given, kept⟩ := first state held
  obtain ⟨result, after, ended, resulting, still⟩ := rest value given between kept
  exact ⟨result, after, by simp only [bind_apply, ran, ended], resulting, still⟩

/-- The operations on the items of a list give a value for each. By induction on the list. -/
theorem map_m {items : List α} {action : α → Act σ β}
    (each : ∀ item ∈ items, (action item).Gives holds then_) :
    (items.mapM action).Gives holds fun values => ∀ value ∈ values, then_ value := by
  induction items with
  | nil =>
    rw [List.mapM_nil]
    exact pure (by simp)
  | cons item rest inductionHypothesis =>
    rw [List.mapM_cons]
    refine bind (each item List.mem_cons_self) fun value given => ?_
    refine bind (inductionHypothesis fun other later => each other (List.mem_cons_of_mem _ later))
      fun values others => pure ?_
    exact List.forall_mem_cons.mpr ⟨given, others⟩

/-- A tool answers with what it was going to answer with, where that does not fail. -/
theorem answering {holds : Engine σ → Prop} {gives : Value → Prop} (reason : String)
    {action : Act (Engine σ) Value} (answered : action.Gives holds gives) :
    (Assistant.answering reason action).Gives holds gives := by
  intro state held
  obtain ⟨value, after, ran, given, kept⟩ := answered state held
  exact ⟨value, after, by simp [Assistant.answering, ran], given, kept⟩

end Act.Gives

/-! ## Finite answers -/

namespace Assistant

/-- A time that may be missing is written as a text or as null. -/
theorem time_text_finite (time : Option Timestamp) : (timeText? time).isFinite = true := by
  cases time <;> rfl

/-- The figures of a snapshot are shown as they are. -/
theorem campaign_entry_finite {snapshot : Snapshot} (finite : snapshot.metrics.Finite) :
    (campaignEntry snapshot).isFinite = true := by
  simp [campaignEntry, timeText, Metrics.toFields, Metric.all, Vocabulary.members, Metrics.value,
    Number.toValue, Value.isFinite, Value.fieldsFinite, finite.spend, finite.cost,
    finite.frequency, finite.cpc, finite.ctr]

/-- The entry of a log is finite where the metrics of the log are. -/
theorem log_entry_finite {log : ActionLog} (finite : log.metrics.Finite) :
    (logEntry log).isFinite = true := by
  simp [logEntry, timeText, time_text_finite, shownMetrics, Metrics.value, Number.toValue,
    Value.isFinite, Value.fieldsFinite, Value.of_text_finite, Vocabulary.toValue, finite.spend,
    finite.cpc, finite.ctr]

/-- A sound condition is shown with its threshold, which is finite. -/
theorem condition_entry_finite {groupId : Option String} {position : Nat} {condition : Condition}
    (sound : condition.SoundIn groupId position) :
    (conditionEntry condition).isFinite = true := by
  obtain ⟨metric, knownMetric⟩ := sound.metric
  obtain ⟨comparison, knownComparison⟩ := sound.comparison
  obtain ⟨threshold, given, finite⟩ := sound.threshold
  simp [conditionEntry, knownMetric, knownComparison, given, Term.toValue, Vocabulary.toValue,
    Value.isFinite, Value.fieldsFinite, finite]

/-- The entry of a group is finite where the group is sound, because its thresholds are. -/
theorem group_entry_finite {ruleId : String} {position : Nat} {group : ConditionGroup}
    (sound : group.SoundIn ruleId position) : (groupEntry group).isFinite = true := by
  obtain ⟨junction, known⟩ := sound.junction
  have conditions : Value.itemsFinite (group.conditions.map conditionEntry) = true := by
    refine Value.map_finite fun condition inGroup => ?_
    obtain ⟨place, within⟩ := List.mem_iff_getElem?.mp inGroup
    exact condition_entry_finite (sound.conditions place condition within)
  simp [groupEntry, known, Term.toValue, Vocabulary.toValue, Value.isFinite, Value.fieldsFinite,
    conditions]

/-- A rule with the groups of a sound one is shown with finite numbers. -/
theorem rule_entry_finite {rule stored : Rule} (sound : stored.Sound)
    (same : rule.groups = stored.groups) (recent : List ActionLog) :
    (ruleEntry rule recent).isFinite = true := by
  have groups : Value.itemsFinite (rule.groups.map groupEntry) = true := by
    refine Value.map_finite fun group inRule => ?_
    obtain ⟨position, placed⟩ := List.mem_iff_getElem?.mp (same ▸ inRule)
    exact group_entry_finite (sound.groups position group placed)
  have logs : Value.itemsFinite (recent.map recentEntry) = true :=
    Value.map_finite fun log _ => rfl
  simp [ruleEntry, Vocabulary.toValue, Value.of_text_finite, time_text_finite, Value.isFinite,
    Value.fieldsFinite, groups, logs]

end Assistant

/-! ## Tools over the store in memory -/

/-- The result of a tool is a record, which reports an error exactly if there is trouble. -/
def Reports (result : Value) (trouble : Prop) : Prop :=
  ∃ fields, result = .record fields ∧ ((Fields.get? fields "error").isSome = true ↔ trouble)

namespace Application

variable {application : Application} {store : Store}

/-- Just this is stored. -/
def Storing (store : Store) (engine : Engine (Memory × Nat)) : Prop :=
  engine.outside.1.store = store

/-- A query that has an answer is answered, and what is stored stays. -/
theorem query_gives {ask : Store → Except Failure α} {value : α} (answer : ask store = .ok value) :
    (Engine.onOutside ((Memory.query ask).onPart application.present left)).Gives (Storing store)
      (· = value) := by
  intro engine stored
  have answered : ask (application.present engine.outside).store = .ok value := by
    rw [← answer, ← stored]
    rfl
  let outside := left engine.outside (application.present engine.outside)
  refine ⟨value, { engine with outside := outside }, ?_, rfl, stored⟩
  simp [Engine.onOutside, Memory.query, answered, outside]

/-- Logs that are listed are shown. -/
theorem logs_give [IdSupply] {ruleId : Value} {limit : Int} {listed : List ActionLog}
    (found : store.logsWhere (Memory.ofRule ruleId) (.before limit) = .ok listed) :
    (Engine.onOutside (application.services.repository.logs ruleId (.int limit))).Gives
      (Storing store) (· = listed) := by
  have asked : application.services.repository.logs ruleId (.int limit) =
      (Memory.query (·.logsWhere (Memory.ofRule ruleId) (.before limit))).onPart
        application.present left := rfl
  rw [asked]
  exact query_gives found

section Vetted

variable [IdSupply] {fine : Metrics → Prop} {memory : Memory} (vetted : memory.Vetted fine)

include vetted

/-- The latest snapshot is missing exactly where none is stored. -/
theorem campaign_data_gives :
    (Assistant.campaignData application.services).Gives (Storing memory.store) fun result =>
      Reports result (memory.store.campaigns = []) ∧ result.isFinite = true := by
  obtain ⟨latest, found⟩ := vetted.latest_campaign
  refine .answering _ (.bind (query_gives found) ?_)
  rintro latest rfl
  cases latest with
  | none =>
    have nothing : memory.store.campaigns = [] := by
      have course := latest_course Snapshot.syncedAt memory.store.campaigns
      rw [show latest? _ _ = _ from found] at course
      simpa using course
    exact .pure ⟨⟨_, rfl, iff_of_true rfl nothing⟩, rfl⟩
  | some snapshot =>
    have stored := Store.latest_mem found
    have read := vetted.readings snapshot stored
    have unreported : (Fields.get? ([("campaign_id", .text snapshot.campaignId),
        ("name", .text snapshot.name)] ++ snapshot.metrics.toFields ++
          [("last_synced", Assistant.timeText snapshot.syncedAt)]) "error").isSome = false := rfl
    refine .pure ⟨⟨_, rfl, ?_⟩, Assistant.campaign_entry_finite read.finite⟩
    exact iff_of_false (Bool.eq_false_iff.mp unreported) (List.ne_nil_of_mem stored)

/-- All rules are listed, and their logs. -/
theorem automation_rules_gives :
    (Assistant.automationRules application.services).Gives (Storing memory.store) fun result =>
      Reports result False ∧ result.isFinite = true := by
  obtain ⟨listed, rules⟩ := vetted.numbered.newest
  refine .answering _ (.bind (query_gives rules) ?_)
  rintro listed rfl
  have each : ∀ rule ∈ listed, Act.Gives (Storing memory.store)
      (fun entry : Value => entry.isFinite = true) (do
        let recent ← Engine.onOutside
          (application.services.repository.logs (.text rule.id) (.int 5))
        pure (Assistant.ruleEntry rule recent)) := by
    intro rule member
    obtain ⟨stored, kept, name, rfl⟩ := Memory.listed_stored listed rules rule member
    obtain ⟨recent, logs⟩ := vetted.logs_where (Memory.ofRule (.text stored.id)) (.before 5)
    refine .bind (logs_give logs) fun recent _ => .pure ?_
    exact Assistant.rule_entry_finite (vetted.sound.rules stored kept) rfl recent
  refine .bind (.map_m each) fun entries finite => .pure ⟨⟨_, rfl, by simp [Fields.get?]⟩, ?_⟩
  simp [Value.isFinite, Value.fieldsFinite, (Value.items_finite_iff entries).mpr finite]

/-- The newest logs are listed. Only their figures may not be finite. -/
theorem action_logs_gives (limit : Int) :
    (Assistant.actionLogs application.services (.int limit)).Gives (Storing memory.store)
      fun result => Reports result False ∧
        (result.isFinite = true ∨ ∃ log ∈ memory.store.logs, ¬ log.metrics.Finite) := by
  obtain ⟨listed, logs⟩ := vetted.logs_where (Memory.ofRule .null) (.before limit)
  refine .answering _ (.bind (logs_give logs) ?_)
  rintro listed rfl
  refine .pure ⟨⟨_, rfl, by simp [Fields.get?]⟩, ?_⟩
  by_cases finite : ∀ log ∈ memory.store.logs, log.metrics.Finite
  · left
    have entries : Value.itemsFinite (listed.map Assistant.logEntry) = true := by
      refine Value.map_finite fun log member => ?_
      obtain ⟨stored, kept, rfl⟩ := Store.where_stored logs log member
      exact Assistant.log_entry_finite (finite stored kept)
    simp [Value.isFinite, Value.fieldsFinite, entries]
  · right
    simpa using finite

end Vetted

/-- A synchronisation on request reports whether it failed. -/
theorem sync_campaign_reports {σ : Type} (services : Services σ) (engine : Engine σ) :
    ∃ result after, Assistant.syncCampaign services engine = .ok result after ∧
      Reports result (∃ failure after, Engine.synchronise services .null engine =
        .error failure after) ∧ result.isFinite = true := by
  cases ran : Engine.synchronise services .null engine with
  | ok result after =>
    refine ⟨_, after, by simp [Assistant.syncCampaign, ran]; rfl, ⟨_, rfl, ?_⟩, rfl⟩
    exact iff_of_false (by simp [Fields.get?]) (by simp)
  | error failure after =>
    refine ⟨_, after, by simp [Assistant.syncCampaign, ran]; rfl, ⟨_, rfl, ?_⟩, rfl⟩
    exact iff_of_true rfl ⟨failure, after, rfl⟩

/-- What keeps a tool from its answer. Rules and logs are always found. -/
def Troubled [IdSupply] (application : Application) (engine : Engine (Memory × Nat)) :
    Http.Tool → Prop
  | .campaignData => engine.outside.1.store.campaigns = []
  | .syncCampaign =>
    ∃ failure after, Engine.synchronise application.services .null engine = .error failure after
  | .actionLogs | .automationRules => False

/-- Every tool answers. An error is reported exactly where something kept the tool from its answer,
and every number is finite unless it is shown with a stored log. -/
theorem tool_answers [IdSupply] {fine : Metrics → Prop} {engine : Engine (Memory × Nat)}
    (vetted : engine.outside.1.Vetted fine) {tool : Http.Tool} {arguments : Fields}
    {action : Act (Engine (Memory × Nat)) Value}
    (valid : tool.run application.services arguments = .valid action) :
    ∃ result after, action engine = .ok result after ∧
      Reports result (application.Troubled engine tool) ∧
      (result.isFinite = true ∨
        tool = .actionLogs ∧ ∃ log ∈ engine.outside.1.store.logs, ¬ log.metrics.Finite) := by
  cases tool with
  | actionLogs =>
    obtain ⟨given, _, rfl⟩ := Checked.map_valid.mp valid
    obtain ⟨result, after, ran, ⟨reports, finite⟩, _⟩ :=
      action_logs_gives vetted given.limit engine rfl
    exact ⟨result, after, ran, reports, finite.imp_right fun boundless => ⟨rfl, boundless⟩⟩
  | automationRules =>
    obtain ⟨_, _, rfl⟩ := Checked.map_valid.mp valid
    obtain ⟨result, after, ran, ⟨reports, finite⟩, _⟩ := automation_rules_gives vetted engine rfl
    exact ⟨result, after, ran, reports, .inl finite⟩
  | campaignData =>
    obtain ⟨_, _, rfl⟩ := Checked.map_valid.mp valid
    obtain ⟨result, after, ran, ⟨reports, finite⟩, _⟩ := campaign_data_gives vetted engine rfl
    exact ⟨result, after, ran, reports, .inl finite⟩
  | syncCampaign =>
    obtain ⟨_, _, rfl⟩ := Checked.map_valid.mp valid
    obtain ⟨result, after, ran, reports, finite⟩ :=
      sync_campaign_reports application.services engine
    exact ⟨result, after, ran, reports, .inl finite⟩

end Application

end AdRules

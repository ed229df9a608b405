import AdRules.Proofs.Counters
import AdRules.Proofs.Deletion
import AdRules.Proofs.SoundRules

/-!
# Reading the store

What a query answers depends on the store alone. The names of rules and campaigns are not kept in
the logs but looked up when these are read, so where two stores hold the same logs and differ in
such names, every reading of logs differs in these names only.
-/

namespace AdRules

/-- An operation with a result has run to its end. -/
theorem Act.result_ok {σ α : Type} {action : Act σ α} {state : σ} {value : α}
    (given : action.result state = .ok value) : ∃ after, action state = .ok value after := by
  unfold Act.result at given
  split at given
  · next ran => exact ⟨_, by rw [ran, Except.ok.inj given]⟩
  · cases given

/-! ## Logs under other names -/

/-- Converting entries before or after a limit is applied is the same. -/
theorem Limit.take_map {α β : Type} (limit : Limit) (convert : α → β) (entries : List α) :
    limit.take (entries.map convert) = (limit.take entries).map convert := by
  cases limit with
  | all => rfl
  | before position => by_cases fromEnd : position < 0 <;> simp [Limit.take, fromEnd]

/-- Two stores hold the same logs, and what one shows for a log is what the other shows for it with
other names. -/
structure Store.ShownAs (relabel : ActionLog → ActionLog) (before after : Store) : Prop where
  unnamed : ∀ log, (relabel log).unnamed = log.unnamed
  logs : after.logs = before.logs
  decorated : ∀ log, after.decorate log = relabel (before.decorate log)

namespace Store.ShownAs

variable {relabel : ActionLog → ActionLog} {before after : Store}
  (shownAs : Store.ShownAs relabel before after)

include shownAs

/-- A log under other names is still one of its rule. -/
theorem ruleId (log : ActionLog) : (relabel log).ruleId = log.ruleId :=
  (congrArg ActionLog.ruleId (shownAs.unnamed log) :)

/-- It is still one of its campaign. -/
theorem campaignId (log : ActionLog) : (relabel log).campaignId = log.campaignId :=
  (congrArg ActionLog.campaignId (shownAs.unnamed log) :)

/-- It still records its action. -/
theorem action (log : ActionLog) : (relabel log).action = log.action :=
  (congrArg ActionLog.action (shownAs.unnamed log) :)

/-- It still has its status. -/
theorem status (log : ActionLog) : (relabel log).status = log.status :=
  (congrArg ActionLog.status (shownAs.unnamed log) :)

/-- The order of the logs does not depend on names. -/
theorem newest : after.newestLogs = before.newestLogs.map (·.map relabel) := by
  have decorate : after.decorate = relabel ∘ before.decorate := funext shownAs.decorated
  unfold newestLogs
  rw [shownAs.logs, decorate]
  by_cases ordered : Timestamp.uniform (before.logs.map (·.triggeredAt)) = true
  · simp only [ordered, if_true, Except.map, List.map_map]
  · simp [ordered, Except.map]

/-- Logs that are chosen by other properties than names are the same. -/
theorem listed (keep : ActionLog → Bool) (same : ∀ log, keep (relabel log) = keep log)
    (limit : Limit) :
    after.logsWhere keep limit = (before.logsWhere keep limit).map (·.map relabel) := by
  have kept : keep ∘ relabel = keep := funext same
  unfold logsWhere
  rw [shownAs.newest]
  cases before.newestLogs with
  | error failure => rfl
  | ok logs => simp only [Except.map, List.filter_map, kept, Limit.take_map]

/-- The log that is found is the same but for its names. -/
theorem found (ruleId campaignId action status : Value) :
    Memory.findLog ruleId campaignId action status after =
      (Memory.findLog ruleId campaignId action status before).map (·.map relabel) := by
  unfold Memory.findLog
  rw [shownAs.newest]
  cases before.newestLogs with
  | error failure => rfl
  | ok logs =>
    simp only [Except.map, List.find?_map, Function.comp_def, shownAs.ruleId, shownAs.campaignId,
      shownAs.action, shownAs.status]

/-- The logs that are shown with a rule are the same but for their names. -/
theorem with_rule {id : String} (sameRule : (after.rule? id).isSome = (before.rule? id).isSome)
    (bound : Limit) :
    (after.ruleWithLogs id bound).map (·.map (·.recentActions)) =
      (before.ruleWithLogs id bound).map (·.map (·.recentActions.map relabel)) := by
  have kept : ∀ log, ((relabel log).ruleId == id) = (log.ruleId == id) := by
    intro log
    rw [shownAs.ruleId]
  unfold ruleWithLogs
  cases earlier : before.rule? id with
  | none =>
    have missing : after.rule? id = none := by simpa [earlier] using sameRule
    rw [missing]
    rfl
  | some rule =>
    have found : (after.rule? id).isSome = true := by simpa [earlier] using sameRule
    obtain ⟨other, found⟩ := Option.isSome_iff_exists.mp found
    simp only [found, shownAs.listed (·.ruleId == id) kept bound]
    cases before.logsWhere (·.ruleId == id) bound <;> rfl

end Store.ShownAs

namespace Memory

/-! ## What queries give -/

section Queries

variable {memory before after : Memory} {α : Type}

/-- The result of a query is what was asked of the store as it is. -/
theorem query_result (ask : Store → Except Failure α) :
    (query ask).result memory = ask memory.store := by
  cases answered : ask memory.store <;> simp only [Act.result, query, answered]

/-- What two memories answer within every limit looks the same, so it does so within a limit as a
caller gives it; `first` and `second` say what is looked at. -/
theorem limited_alike {β : Type} (limit : Value) (applies : α → Bool)
    (ask : Limit → Store → Except Failure α) {first second : α → β}
    (same : ∀ bound, (ask bound after.store).map second = (ask bound before.store).map first)
    (applied : ∀ earlier later, second later = first earlier → applies later = applies earlier) :
    ((limited limit applies ask).result after).map second =
      ((limited limit applies ask).result before).map first := by
  unfold limited
  cases limit? limit with
  | some bound => simp only [query_result, same]
  | none =>
    have alike := same .all
    simp only [query_result]
    cases later : ask .all after.store with
    | error failure =>
      cases earlier : ask .all before.store with
      | error other => simpa [later, earlier, Except.map, bind, Except.bind] using alike
      | ok value => simp [later, earlier, Except.map] at alike
    | ok value =>
      cases earlier : ask .all before.store with
      | error other => simp [later, earlier, Except.map] at alike
      | ok other =>
        have looksSame : second value = first other := by
          simpa [later, earlier, Except.map] using alike
        have limits := applied other value looksSame
        by_cases applies' : applies other = true <;>
          simp [bind, Except.bind, Except.map, pure, Except.pure, throw, throwThe,
            MonadExceptOf.throw, limits, applies', looksSame]

/-- An answer that passes the further check unchanged is given as it is. -/
theorem rechecked_result {model : String} {recheck : α → Checked α}
    {asked : Act Memory (Option α)}
    (passes : ∀ shown, asked.result memory = .ok (some shown) → recheck shown = .valid shown) :
    (rechecked model recheck asked).result memory = asked.result memory := by
  cases ran : asked memory with
  | error failure after => simp [Act.result, rechecked, ran]
  | ok found after =>
    cases found with
    | none => simp [Act.result, rechecked, ran]
    | some shown =>
      have passed := passes shown (by simp only [Act.result, ran])
      simp [Act.result, rechecked, ran, passed, Act.ofChecked]

variable [IdSupply]

/-- A rule with a sound name is shown as it is stored. -/
theorem rule_result (names : ∀ rule ∈ memory.store.rules, SoundName rule.name) (id limit : Value) :
    (repository.rule id limit).result memory =
      (limited limit Option.isSome fun bound store =>
        withId id (.ok none) fun name => store.ruleWithLogs name bound).result memory := by
  refine rechecked_result fun shown given => ?_
  obtain ⟨_, ran⟩ := Act.result_ok given
  obtain ⟨bound, answered⟩ := limited_answer ran
  obtain ⟨stored, inStore, counted⟩ := shown_stored id bound shown answered
  refine RuleWithLogs.recheck_sound ?_
  rw [counted]
  exact names stored inStore

end Queries

/-! ## Reading after a renaming -/

/-- Every reading of logs gives the logs it gave before, in the same order, with other names; those
of the latest snapshot where that is of the same campaign. -/
structure ReadsAs [IdSupply] (relabel : ActionLog → ActionLog) (before after : Memory) : Prop where
  stored : after.store.logs = before.store.logs
  unnamed : ∀ log, (relabel log).unnamed = log.unnamed
  listed : ∀ ruleId limit, (repository.logs ruleId limit).result after =
    ((repository.logs ruleId limit).result before).map (·.map relabel)
  found : ∀ ruleId campaignId action status,
    (repository.findLog ruleId campaignId action status).result after =
      ((repository.findLog ruleId campaignId action status).result before).map (·.map relabel)
  ofRule : ∀ id limit,
    ((repository.rule id limit).result after).map (·.map (·.recentActions)) =
      ((repository.rule id limit).result before).map (·.map (·.recentActions.map relabel))
  ofCampaign : ∀ limit shown again,
    (repository.latestCampaignWithLogs limit).result before = .ok (some shown) →
      (repository.latestCampaignWithLogs limit).result after = .ok (some again) →
        again.snapshot.campaignId = shown.snapshot.campaignId →
          again.logs = shown.logs.map relabel

variable {relabel : ActionLog → ActionLog} {memory before after : Memory}

/-- A query within a limit that finds something was given a limit. -/
theorem limited_found {α : Type} {limit : Value} {ask : Limit → Store → Except Failure (Option α)}
    {found : α} (given : (limited limit Option.isSome ask).result memory = .ok (some found)) :
    ∃ bound, limit? limit = some bound ∧ ask bound memory.store = .ok (some found) := by
  unfold limited at given
  cases bounded : limit? limit with
  | some bound =>
    simp only [bounded, query_result] at given
    exact ⟨bound, rfl, given⟩
  | none =>
    simp only [bounded, query_result] at given
    cases answered : ask .all memory.store with
    | error failure => simp [answered, bind, Except.bind] at given
    | ok value =>
      cases value <;>
        simp [answered, bind, Except.bind, pure, Except.pure, throw, throwThe,
          MonadExceptOf.throw] at given

/-- What an answer was before it was checked again. -/
theorem rechecked_found {α : Type} {model : String} {recheck : α → Checked α}
    {asked : Act Memory (Option α)} {again : α}
    (given : (rechecked model recheck asked).result memory = .ok (some again)) :
    ∃ shown, asked.result memory = .ok (some shown) ∧ recheck shown = .valid again := by
  cases ran : asked memory with
  | error failure _ => simp [Act.result, rechecked, ran] at given
  | ok found _ =>
    cases found with
    | none => simp [Act.result, rechecked, ran] at given
    | some shown =>
      cases checked : recheck shown with
      | invalid issues => simp [Act.result, rechecked, ran, checked, Act.ofChecked] at given
      | valid value =>
        have same : value = again := by
          simpa [Act.result, rechecked, ran, checked, Act.ofChecked] using given
        exact ⟨shown, by simp only [Act.result, ran], same ▸ checked⟩

/-- The logs that are shown with a snapshot are those of its campaign. -/
theorem logs_with_campaign {store : Store} {bound : Limit} {shown : SnapshotWithLogs}
    (given : store.latestCampaignWithLogs bound = .ok (some shown)) :
    store.logsWhere (·.campaignId == shown.snapshot.campaignId) bound = .ok shown.logs := by
  unfold Store.latestCampaignWithLogs at given
  cases latest : store.latestCampaign with
  | error failure => simp [latest, bind, Except.bind] at given
  | ok found =>
    cases found with
    | none => simp [latest, bind, Except.bind, pure, Except.pure] at given
    | some snapshot =>
      cases listed : store.logsWhere (·.campaignId == snapshot.campaignId) bound with
      | error failure => simp [latest, listed, bind, Except.bind] at given
      | ok logs =>
        simp only [latest, listed, bind, Except.bind, pure, Except.pure, Except.ok.injEq,
          Option.some.injEq] at given
        rw [← given]
        exact listed

variable [IdSupply]

/-- The logs that a caller is shown with a snapshot are those of its campaign, within the limit that
was asked for. -/
theorem shown_with_campaign {limit : Value} {shown : SnapshotWithLogs}
    (given : (repository.latestCampaignWithLogs limit).result memory = .ok (some shown)) :
    ∃ bound, limit? limit = some bound ∧
      memory.store.logsWhere (·.campaignId == shown.snapshot.campaignId) bound =
        .ok shown.logs := by
  obtain ⟨_, found, checked⟩ := rechecked_found given
  obtain ⟨bound, bounded, answered⟩ := limited_found found
  obtain ⟨sameLogs, sameCampaign⟩ := SnapshotWithLogs.recheck_valid checked
  refine ⟨bound, bounded, ?_⟩
  rw [sameCampaign, sameLogs]
  exact logs_with_campaign answered

/-- Where the same rules are stored under sound names, logs are read under their other names. -/
theorem reads_as (shownAs : Store.ShownAs relabel before.store after.store)
    (sameRules : ∀ id, (after.store.rule? id).isSome = (before.store.rule? id).isSome)
    (namesBefore : ∀ rule ∈ before.store.rules, SoundName rule.name)
    (namesAfter : ∀ rule ∈ after.store.rules, SoundName rule.name) :
    ReadsAs relabel before after where
  stored := shownAs.logs
  unnamed := shownAs.unnamed
  listed := by
    intro ruleId limit
    have kept : ∀ log, ofRule ruleId (relabel log) = ofRule ruleId log := by
      intro log
      simp only [ofRule, shownAs.ruleId]
    have same : ∀ bound, (after.store.logsWhere (ofRule ruleId) bound).map id =
        (before.store.logsWhere (ofRule ruleId) bound).map (·.map relabel) := by
      intro bound
      rw [shownAs.listed (ofRule ruleId) kept bound, Except.map_id]
      rfl
    have alike := limited_alike limit (fun _ => true)
      (fun bound store => store.logsWhere (ofRule ruleId) bound) same fun _ _ _ => rfl
    rw [Except.map_id] at alike
    exact alike
  found := by
    intro ruleId campaignId action status
    simp only [repository, query_result, shownAs.found]
  ofRule := by
    intro id limit
    rw [rule_result namesBefore, rule_result namesAfter]
    refine limited_alike limit _ _ ?_ ?_
    · intro bound
      unfold withId
      cases id? id with
      | error failure => rfl
      | ok name =>
        cases name with
        | none => rfl
        | some name => exact shownAs.with_rule (sameRules name) bound
    · intro earlier later alike
      have isSome := congrArg Option.isSome alike
      simpa using isSome
  ofCampaign := by
    intro limit shown again givenBefore givenAfter sameCampaign
    obtain ⟨bound, bounded, logsBefore⟩ := shown_with_campaign givenBefore
    obtain ⟨other, boundedAgain, logsAfter⟩ := shown_with_campaign givenAfter
    have sameBound : other = bound := Option.some.inj (boundedAgain.symm.trans bounded)
    have kept : ∀ log, ((relabel log).campaignId == shown.snapshot.campaignId) =
        (log.campaignId == shown.snapshot.campaignId) := by
      intro log
      rw [shownAs.campaignId]
    rw [sameBound, sameCampaign,
      shownAs.listed (·.campaignId == shown.snapshot.campaignId) kept, logsBefore] at logsAfter
    exact (Except.ok.inj logsAfter).symm

end Memory

end AdRules

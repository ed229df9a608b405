import AdRules.Proofs.Readings

/-!
# What only grows

The log grows at its end. Nothing in it is changed or moved, and only deleting a rule takes anything
out, namely the logs of that rule. What a rule counts only grows too, and where it comes from stays
as it is. Names are the one thing that can change afterwards, in what is read and not in what is
kept.
-/

namespace AdRules.Memory

/-- A rule as it was before, if often triggered and changed since. Its identifier, its birth and its
owner are the same, and its count has not gone back. -/
structure Continues (before after : Rule) : Prop where
  id : after.id = before.id
  count : before.triggerCount ≤ after.triggerCount
  createdAt : after.createdAt = before.createdAt
  createdBy : after.createdBy = before.createdBy

/-- A rule continues itself, which is all that most calls ask of the rules that they pass over. -/
theorem Continues.refl (rule : Rule) : Continues rule rule := ⟨rfl, Nat.le_refl _, rfl, rfl⟩

/-- A rule that continues one that continues another continues that one, over any number of calls.
-/
theorem Continues.trans {first second third : Rule} (earlier : Continues first second)
    (later : Continues second third) : Continues first third where
  id := later.id.trans earlier.id
  count := earlier.count.trans later.count
  createdAt := later.createdAt.trans earlier.createdAt
  createdBy := later.createdBy.trans earlier.createdBy

/-! ## Effects -/

section Effects

variable [IdSupply] {memory after : Memory} {call : Call} {reply : Reply}

/-- The rule that a call deletes, if it is stored. A call that fails to find its rule deletes none.
-/
def Call.deleted : Call → Store → Option String
  | .deleteRule (.text id), store => if (store.rule? id).isSome then some id else none
  | _, _ => none

/-- The rules that some events delete, each found in the memory that the events before it have left.
-/
def deletedFrom : Memory → List Event → List String
  | _, [] => []
  | memory, event :: rest =>
    (event.call.deleted memory.store).toList ++ deletedFrom (event.answer memory).2 rest

/-! ## The log -/

/-- Every call but a deletion leaves the log as it is or adds what it recorded at the end. -/
theorem Effect.log_grows (effect : Effect memory call reply after)
    (noDeletion : ∀ id, call ≠ .deleteRule id) :
    ∃ recorded, recorded.map (·.unnamed) = reply.recorded.toList.map (·.unnamed) ∧
      after.store.logs = memory.store.logs ++ recorded := by
  cases effect with
  | kept counted issued more shown => exact ⟨[], rfl, by simp [keep]⟩
  | measured snapshot =>
    have sameLogs := (Store.upsert_frame memory.store memory.now memory.issued snapshot).2.1
    exact ⟨[], rfl, by simp [keep, sameLogs]⟩
  | created draft owner => exact ⟨[], rfl, by simp [keep, Store.createRule]⟩
  | changed rule change found => exact ⟨[], rfl, by simp [keep]⟩
  | deleted id => exact absurd rfl (noDeletion _)
  | recorded rule log issued more found first => exact ⟨[log], rfl, rfl⟩

/-- Identifiers are never taken back. -/
theorem Effect.issued_le (effect : Effect memory call reply after) :
    memory.issued ≤ after.issued := by
  cases effect with
  | kept counted issued more shown => exact more
  | measured snapshot =>
    exact (Store.upsert_frame memory.store memory.now memory.issued snapshot).2.2
  | created draft owner =>
    simp only [keep, Store.createRule]
    omega
  | changed rule change found => exact Nat.le_add_right memory.issued change.idCount
  | deleted id => exact Nat.le_refl memory.issued
  | recorded rule log issued more found first => exact more

/-- What comes of deleting a rule: it is taken out with its logs, or nothing changes because it is
not stored. -/
theorem delete_course (distinct : (memory.store.rules.map (·.id)).Nodup) (id : Value) :
    ((Call.deleteRule id).answer memory).1.recorded = none ∧
      ((∃ rule ∈ memory.store.rules, (Call.deleteRule id).deleted memory.store = some rule.id ∧
          Removes memory rule ((Call.deleteRule id).answer memory).2) ∨
        (Call.deleteRule id).deleted memory.store = none ∧
          ((Call.deleteRule id).answer memory).2 = memory) := by
  have refused : ∀ failure, repository.deleteRule id memory = .error failure memory →
      (Call.deleteRule id).answer memory = (.other, memory) := by
    intro failure ran
    simp only [Call.answer, Call.perform, settle, Act.map_apply, ran]
  by_cases named : ∃ name, id = .text name
  case pos =>
    obtain ⟨name, rfl⟩ := named
    cases found : memory.store.rule? name with
    | none =>
      have missing := refused (.ruleNotFound (.text name)) (by
        simp only [repository, change, delete_text, Store.deleteRule, found, Except.map])
      exact ⟨by rw [missing]; rfl, .inr ⟨by simp [Call.deleted, found], by rw [missing]⟩⟩
    | some rule =>
      obtain rfl := Store.id_of_rule? found
      obtain ⟨after, ran, removes⟩ := delete_removes distinct (Store.mem_of_rule? found)
      have answered : (Call.deleteRule (.text rule.id)).answer memory = (.other, after) := by
        simp only [Call.answer, Call.perform, settle, Act.map_apply, ran]
      refine ⟨by rw [answered]; rfl, .inl ⟨rule, Store.mem_of_rule? found, ?_, ?_⟩⟩
      · simp [Call.deleted, found]
      · rw [answered]
        exact removes
  case neg =>
    have other : ∀ name, id ≠ .text name := fun name same => named ⟨name, same⟩
    obtain ⟨failure, refusing⟩ := delete_other other memory.issued memory.store
    have missing := refused failure (by simp only [repository, change, refusing])
    have nothing : (Call.deleteRule id).deleted memory.store = none := by
      cases id with
      | text name => exact absurd rfl (other name)
      | null | bool _ | int _ | float _ | time _ | list _ | record _ => rfl
    exact ⟨by rw [missing]; rfl, .inr ⟨nothing, by rw [missing]⟩⟩

/-- Whatever is called, the log afterwards is the one before with what was recorded, less the logs
of the rule that was deleted. -/
theorem call_logs (distinct : (memory.store.rules.map (·.id)).Nodup) (call : Call) :
    ∃ recorded, recorded.map (·.unnamed) =
        (call.answer memory).1.recorded.toList.map (·.unnamed) ∧
      (call.answer memory).2.store.logs = (memory.store.logs ++ recorded).filter
        (fun log => log.ruleId ∉ (call.deleted memory.store).toList) := by
  by_cases deletion : ∃ id, call = .deleteRule id
  · obtain ⟨id, rfl⟩ := deletion
    obtain ⟨silent, ⟨rule, stored, deleted, removes⟩ | ⟨deleted, same⟩⟩ := delete_course distinct id
    · refine ⟨[], by rw [silent]; rfl, ?_⟩
      simp [deleted, removes.logs]
    · refine ⟨[], by rw [silent]; rfl, ?_⟩
      simp [deleted, same]
  · have noDeletion : ∀ id, call ≠ .deleteRule id := fun id same => deletion ⟨id, same⟩
    have nothing : call.deleted memory.store = none := by
      cases call with
      | deleteRule id => exact absurd rfl (noDeletion id)
      | _ => rfl
    obtain ⟨recorded, sameRecorded, logs⟩ := (call_effect call).log_grows noDeletion
    exact ⟨recorded, sameRecorded, by simp [nothing, logs]⟩

/-- A rule that is not stored although its identifier was issued is gone. -/
theorem absent_gone (history : List Event) {id : String}
    (issuedBefore : ∃ count < (run history).issued, id = freshId count)
    (absent : (run history).store.rule? id = none) : Gone (run history) id where
  issuedBefore := issuedBefore
  noRule := absent
  noLog := by
    rintro log stored rfl
    have owned := (run_tallied history).owned log stored
    rw [← Store.rule?_isSome, absent] at owned
    cases owned

/-- No log is recorded for what is gone. -/
theorem Gone.unrecorded {id : String} (gone : Gone memory id) (future : List Event) :
    ∀ log ∈ recordedFrom memory future, log.ruleId ≠ id := by
  have both := run_from_induction
    (motive := fun logs memory => Gone memory id ∧ ∀ log ∈ logs, log.ruleId ≠ id) future ?_ []
    memory ⟨gone, by simp⟩
  · simpa using both.2
  · rintro logs memory ⟨moment, call⟩ _ reply after ⟨gone, apart⟩ effect
    refine ⟨(gone.at_moment moment).step effect, ?_⟩
    intro log member
    rcases List.mem_append.mp member with before | new
    · exact apart log before
    · cases effect with
      | recorded rule log issued more found first =>
        have same := List.mem_singleton.mp new
        subst same
        exact (gone.at_moment moment).apart found
      | kept _ _ _ _ | measured _ | created _ _ | changed _ _ _ _ | deleted _ => cases new

/-- What an event deletes is gone after it. -/
theorem deleted_gone (history : List Event) (event : Event) {id : String}
    (deleted : event.call.deleted (run history).store = some id) :
    Gone (event.answer (run history)).2 id := by
  obtain ⟨moment, call⟩ := event
  cases call with
  | deleteRule given =>
    have numbered : ((run history).setClock moment).store.Numbered (run history).issued :=
      run_numbered history
    obtain ⟨_, ⟨rule, stored, named, removes⟩ | ⟨nothing, _⟩⟩ :=
      delete_course numbered.distinct given
    · have same : rule.id = id := Option.some.inj (named.symm.trans deleted)
      exact same ▸ removes.gone numbered.distinct (numbered.issuedBefore rule stored)
    · have noRule : some id = none := deleted.symm.trans nothing
      cases noRule
  | _ => cases deleted

/-- In every history the log grows at its end, apart from the deletion of rules. By induction on the
events that follow; for a rule that one of them deletes those after it record nothing. -/
theorem logs_grow (history future : List Event) :
    ∃ since, since.map (·.unnamed) = (recordedFrom (run history) future).map (·.unnamed) ∧
      (runFrom (run history) future).store.logs = ((run history).store.logs ++ since).filter
        (fun log => log.ruleId ∉ deletedFrom (run history) future) := by
  induction future generalizing history with
  | nil => exact ⟨[], rfl, by simp [deletedFrom, runFrom]⟩
  | cons event rest inductionHypothesis =>
    have numbered : ((run history).setClock event.moment).store.Numbered (run history).issued :=
      run_numbered history
    obtain ⟨recorded, sameRecorded, logs⟩ := call_logs numbered.distinct event.call
    obtain ⟨since, sameSince, later⟩ := inductionHypothesis (history ++ [event])
    rw [run_append] at sameSince later
    refine ⟨recorded ++ since, ?_, ?_⟩
    · rw [List.map_append, sameSince, sameRecorded, recordedFrom, List.map_append]
      rfl
    · have apart : ∀ log ∈ since, log.ruleId ∉ (event.call.deleted (run history).store).toList := by
        intro log member deleted
        have gone := deleted_gone history event (Option.mem_toList.mp deleted)
        have unnamed : log.unnamed ∈ since.map (·.unnamed) := List.mem_map_of_mem member
        rw [sameSince] at unnamed
        obtain ⟨other, listed, same⟩ := List.mem_map.mp unnamed
        have sameRule : other.ruleId = log.ruleId := (congrArg ActionLog.ruleId same :)
        exact gone.unrecorded rest other listed sameRule
      have untouched : since.filter
          (fun log => log.ruleId ∉ (event.call.deleted (run history).store).toList) = since :=
        List.filter_eq_self.mpr fun log member => decide_eq_true (apart log member)
      have logsThen : (event.answer (run history)).2.store.logs =
          ((run history).store.logs ++ recorded).filter
            (fun log => log.ruleId ∉ (event.call.deleted (run history).store).toList) := logs
      rw [runFrom, later, logsThen]
      conv_lhs => rw [← untouched]
      rw [← List.filter_append, List.filter_filter, List.append_assoc]
      refine List.filter_congr fun log _ => ?_
      simp [deletedFrom, Bool.and_comm]

/-! ## The rules -/

/-- A call leaves a rule out or continues it. The cases are the effects that a call can have; only
deleting leaves a rule out, and only the rule that is deleted. -/
theorem Effect.continues (effect : Effect memory call reply after) {id : String}
    {before later : Rule} (found : memory.store.rule? id = some before)
    (foundLater : after.store.rule? id = some later) : Continues before later := by
  have same : after.store.rule? id = memory.store.rule? id → Continues before later := by
    intro unchanged
    rw [unchanged, found] at foundLater
    exact Option.some.inj foundLater ▸ Continues.refl before
  have replaced : ∀ rule changed : Rule, changed.id = rule.id →
      memory.store.rule? rule.id = some rule → Continues rule changed →
      (memory.store.putRule changed).rule? id = some later → Continues before later := by
    intro rule changed sameId foundRule continues put
    rw [Store.rule?_put_rule, sameId, found] at put
    split at put
    · next named =>
      rw [named, found] at foundRule
      cases foundRule
      exact Option.some.inj put ▸ continues
    · exact Option.some.inj put ▸ Continues.refl before
  cases effect with
  | kept counted issued more shown => exact same rfl
  | measured snapshot =>
    have sameRules := (Store.upsert_frame memory.store memory.now memory.issued snapshot).1
    exact same (by simp only [keep, Store.rule?, sameRules])
  | created draft owner =>
    refine same ?_
    have present : memory.store.rules.find? (·.id == id) = some before := found
    simp [keep, Store.createRule, Store.rule?, List.find?_append, present]
  | changed rule change foundRule =>
    exact replaced rule (change.apply memory.now memory.issued rule) rfl foundRule
      ⟨rfl, Nat.le_refl _, rfl, rfl⟩ foundLater
  | deleted other =>
    by_cases named : id = other
    · subst named
      have kept := Store.mem_of_rule? foundLater
      have removed := (List.mem_filter.mp kept).2
      simp [Store.id_of_rule? foundLater] at removed
    · exact same (Store.find_other named)
  | recorded rule log issued more foundRule first =>
    have own : rule.id = log.ruleId := Store.id_of_rule? foundRule
    exact replaced rule (rule.triggered log.triggeredAt memory.now) rfl (own ▸ foundRule)
      ⟨rfl, Nat.le_succ _, rfl, rfl⟩ foundLater

/-- A rule that is stored at two moments of a history is the same rule, triggered as often or more
often. By induction on the events between them; it is stored at every moment between, because what
is gone stays gone. -/
theorem rules_continue (history future : List Event) {id : String} {before later : Rule}
    (found : (run history).store.rule? id = some before)
    (foundLater : (runFrom (run history) future).store.rule? id = some later) :
    Continues before later := by
  induction future generalizing history before with
  | nil =>
    have same : before = later := Option.some.inj (found.symm.trans foundLater)
    exact same ▸ Continues.refl before
  | cons event rest inductionHypothesis =>
    have effect : Effect ((run history).setClock event.moment) event.call
        (event.answer (run history)).1 (event.answer (run history)).2 := call_effect event.call
    cases between : (event.answer (run history)).2.store.rule? id with
    | none =>
      obtain ⟨count, earlier, named⟩ :=
        (run_numbered history).issuedBefore before (Store.mem_of_rule? found)
      rw [Store.id_of_rule? found] at named
      rw [← run_append] at between
      have more : (run history).issued ≤ (run (history ++ [event])).issued :=
        run_append history event ▸ effect.issued_le
      have gone := absent_gone (history ++ [event]) ⟨count, by omega, named⟩ between
      have stillGone := gone.run rest
      rw [run_append] at stillGone
      exact absurd foundLater (by rw [runFrom, stillGone.noRule]; simp)
    | some rule =>
      have first := effect.continues found between
      rw [← run_append] at between
      have then' := inductionHypothesis (history ++ [event]) between
        (by rw [run_append]; exact foundLater)
      exact first.trans then'

end Effects

/-! ## Names -/

/-- The log under another name of the rule with an identifier. Logs of other rules are as they were.
-/
def underRuleName (id name : String) (log : ActionLog) : ActionLog :=
  if log.ruleId = id then { log with ruleName := some name } else log

/-- The log under another name of a campaign. -/
def underCampaignName (campaignId name : String) (log : ActionLog) : ActionLog :=
  if log.campaignId = campaignId then { log with campaignName := some name } else log

/-- A log is shown under another name of its rule where only that name is another. -/
theorem shown_under_rule_name {before after : Store} {id name : String}
    (campaigns : after.campaigns = before.campaigns)
    (own : (after.rule? id).map (·.name) = some name)
    (others : ∀ other, other ≠ id →
      (after.rule? other).map (·.name) = (before.rule? other).map (·.name)) (log : ActionLog) :
    after.decorate log = underRuleName id name (before.decorate log) := by
  have sameCampaign : after.campaign? log.campaignId = before.campaign? log.campaignId := by
    simp only [Store.campaign?, campaigns]
  by_cases ofRule : log.ruleId = id
  · simp [Store.decorate, underRuleName, ofRule, own, sameCampaign]
  · simp [Store.decorate, underRuleName, ofRule, others _ ofRule, sameCampaign]

/-- A log is shown under another name of its campaign where only that name is another. -/
theorem shown_under_campaign_name {before after : Store} {campaignId name : String}
    (rules : after.rules = before.rules)
    (own : (after.campaign? campaignId).map (·.name) = some name)
    (others : ∀ other, other ≠ campaignId → after.campaign? other = before.campaign? other)
    (log : ActionLog) :
    after.decorate log = underCampaignName campaignId name (before.decorate log) := by
  have sameRule : after.rule? log.ruleId = before.rule? log.ruleId := by
    simp only [Store.rule?, rules]
  by_cases ofCampaign : log.campaignId = campaignId
  · simp [Store.decorate, underCampaignName, ofCampaign, own, sameRule]
  · simp [Store.decorate, underCampaignName, ofCampaign, others _ ofCampaign, sameRule]

/-- The names of the rules are sound after a history of checked calls. -/
theorem sound_names [IdSupply] (history : List Event)
    (checked : ∀ event ∈ history, event.call.Checked) :
    ∀ rule ∈ (run history).store.rules, SoundName rule.name :=
  fun rule stored => ((run_sound history checked).rules rule stored).name

section Naming

variable [IdSupply]

/-- Renaming a rule changes the name in what is read of its logs. -/
theorem rename_rule (history : List Event) (checked : ∀ event ∈ history, event.call.Checked)
    (moment : Int) {rule : Rule} (stored : rule ∈ (run history).store.rules) {change : RuleChange}
    (changeChecked : (Call.updateRule (.text rule.id) change).Checked) {name : String}
    (named : change.name = some name) :
    ReadsAs (underRuleName rule.id name) (run history)
      (run (history ++ [⟨moment, .updateRule (.text rule.id) change⟩])) := by
  have namesAfter := sound_names (history ++ [⟨moment, .updateRule (.text rule.id) change⟩]) (by
    intro event member
    rcases List.mem_append.mp member with before | new
    · exact checked event before
    · exact List.mem_singleton.mp new ▸ changeChecked)
  let memory := (run history).setClock moment
  let changed := change.apply memory.now memory.issued rule
  have found : memory.store.rule? rule.id = some rule :=
    Store.rule?_of_mem (run_numbered history).distinct stored
  have after : run (history ++ [⟨moment, .updateRule (.text rule.id) change⟩]) =
      memory.keep (memory.store.putRule changed) (memory.issued + change.idCount) := by
    have answered : (Call.updateRule (.text rule.id) change).answer memory =
        (.showing [memory.store.withCount changed],
          memory.keep (memory.store.putRule changed) (memory.issued + change.idCount)) := by
      simp only [Call.answer, Call.perform, repository, settle_change, withId, id?, bind,
        Except.bind, Store.updateRule, found, Except.map]
      rfl
    exact (run_append history _).trans (congrArg Prod.snd answered)
  have ids : (memory.store.putRule changed).rules.map (·.id) = memory.store.rules.map (·.id) :=
    Store.put_rule_ids
  rw [after] at namesAfter ⊢
  refine reads_as ⟨?_, rfl, ?_⟩ ?_ (sound_names history checked) namesAfter
  · intro log
    by_cases own : log.ruleId = rule.id <;> simp [underRuleName, ActionLog.unnamed, own]
  · refine shown_under_rule_name rfl ?_ ?_
    · simp [keep, Store.rule?_put_rule, changed, RuleChange.apply, found, named]
    · intro other apart
      have differs : changed.id ≠ other := Ne.symm apart
      simp only [keep, Store.rule?_put_rule, differs, if_false]
      rfl
  · intro id
    rw [Bool.eq_iff_iff, Store.rule?_isSome, Store.rule?_isSome]
    exact Iff.of_eq (congrArg (id ∈ ·) ids)

/-- Renaming a campaign, or storing it under its first name, changes the name in what is read of its
logs. -/
theorem rename_campaign (history : List Event) (checked : ∀ event ∈ history, event.call.Checked)
    (moment : Int) (snapshot : Snapshot) :
    ReadsAs (underCampaignName snapshot.campaignId snapshot.name) (run history)
      (run (history ++ [⟨moment, .upsertCampaign snapshot⟩])) := by
  have names := sound_names history checked
  let memory := (run history).setClock moment
  let upserted := memory.store.upsert memory.now memory.issued snapshot
  have after : run (history ++ [⟨moment, .upsertCampaign snapshot⟩]) =
      memory.keep upserted.2.1 upserted.2.2 := run_append history _
  obtain ⟨sameRules, sameLogs, _⟩ :=
    Store.upsert_frame memory.store memory.now memory.issued snapshot
  rw [after]
  refine reads_as ⟨?_, sameLogs, ?_⟩ ?_ names ?_
  · intro log
    by_cases own : log.campaignId = snapshot.campaignId <;>
      simp [underCampaignName, ActionLog.unnamed, own]
  · refine shown_under_campaign_name sameRules ?_ ?_
    · have found := (Store.upsert_stored memory.store memory.now memory.issued snapshot).1
      have name := Store.upsert_name memory.store memory.now memory.issued snapshot
      simp only [keep, upserted, found, Option.map_some, name]
    · intro other apart
      exact Store.upsert_other memory.store memory.now memory.issued snapshot apart
  · intro id
    simp only [Store.rule?, keep, upserted, sameRules]
    rfl
  · simp only [keep, upserted, sameRules]
    exact names

/-! ## Two moments of a history -/

/-- Between two moments of a history the log has kept what it held, in the order and with the
content it had, and has got at its end what was recorded in between, apart from all logs of rules
that were deleted in between. A rule that is stored at both has its identifier, its origin and at
least its count. Giving a rule or a campaign another name changes no log but only what is read as
the name of that rule or campaign. -/
theorem log_append_only (history future : List Event) :
    let earlier := run history
    let later := run (history ++ future)
    (∃ since, since.map (·.unnamed) = (recordedFrom earlier future).map (·.unnamed) ∧
        later.store.logs = (earlier.store.logs ++ since).filter
          (fun log => log.ruleId ∉ deletedFrom earlier future)) ∧
      (∀ id before after, earlier.store.rule? id = some before →
        later.store.rule? id = some after → Continues before after) ∧
      ((∀ event ∈ history, event.call.Checked) → ∀ moment,
        (∀ rule ∈ earlier.store.rules, ∀ change name,
          (Call.updateRule (.text rule.id) change).Checked → change.name = some name →
            ReadsAs (underRuleName rule.id name) earlier
              (run (history ++ [⟨moment, .updateRule (.text rule.id) change⟩]))) ∧
        ∀ snapshot, ReadsAs (underCampaignName snapshot.campaignId snapshot.name) earlier
          (run (history ++ [⟨moment, .upsertCampaign snapshot⟩]))) := by
  intro earlier later
  have continued : later = runFrom earlier future := run_from_append start history future
  refine ⟨?_, ?_, ?_⟩
  · rw [continued]
    exact logs_grow history future
  · intro id before after found foundLater
    rw [continued] at foundLater
    exact rules_continue history future found foundLater
  · intro checked moment
    refine ⟨?_, rename_campaign history checked moment⟩
    intro rule stored change name changeChecked named
    exact rename_rule history checked moment stored changeChecked named

end Naming

/-- A success of the second rule of the sample. -/
def noticed : ActionLog :=
  { paused ⟨1, none⟩ with ruleId := freshId 3, action := .sendNotification }

/-- After the sample the second rule is triggered twice, at times that go back, and the first one is
deleted in between. -/
def aftermath : List Event :=
  [⟨5, .record noticed⟩, ⟨3, .deleteRule (.text (freshId 0))⟩, ⟨1, .record noticed⟩]

/-- A history that ends with the deletion of a rule and the recording of logs for another. The logs
of the deleted rule are gone from what was there before, and only they. -/
theorem sample_log_grows :
    (∀ event ∈ sample, event.call.Checked) ∧
      (run sample).store.logs.map (·.ruleId) = [freshId 0] ∧
      deletedFrom (run sample) aftermath = [freshId 0] ∧
      (run (sample ++ aftermath)).store.logs.map (·.ruleId) = [freshId 3, freshId 3] ∧
      (∃ since, since.map (·.unnamed) = (recordedFrom (run sample) aftermath).map (·.unnamed) ∧
        (run (sample ++ aftermath)).store.logs = ((run sample).store.logs ++ since).filter
          (fun log => log.ruleId ∉ deletedFrom (run sample) aftermath)) ∧
      ∀ snapshot, ReadsAs (underCampaignName snapshot.campaignId snapshot.name) (run sample)
        (run (sample ++ [⟨5, .upsertCampaign snapshot⟩])) := by
  have checked : ∀ event ∈ sample, event.call.Checked := by
    intro event member
    simp only [sample, List.mem_cons, List.not_mem_nil, or_false] at member
    rcases member with rfl | rfl | rfl | rfl | rfl
    · exact ⟨⟨⟨0, none⟩, false⟩, padded, rfl⟩
    · exact ⟨⟨⟨0, none⟩, false⟩, (alwaysDue .sendNotification).toValue, rfl⟩
    · trivial
    · trivial
    · trivial
  exact ⟨checked, by decide +kernel, by decide +kernel, by decide +kernel,
    (log_append_only sample aftermath).1, ((log_append_only sample []).2.2 checked 5).2⟩

end AdRules.Memory

import AdRules.Proofs.RuleTurn
import AdRules.Proofs.StoredRules
import Mathlib.Data.List.Nodup

/-!
# Deleted rules

Deleting a rule takes it and its logs out of the store and nothing else. The deletion is final: the
identifier was issued, so no new rule is ever given it, and a log is only recorded for a rule that
is stored. What is gone therefore stays gone whatever is called afterwards, also by those who still
hold the rule as it was.
-/

namespace AdRules

/-! ## Logs that are listed -/

namespace Store

variable {store : Store} {listed : List ActionLog}

/-- Entries within a limit are among all entries. -/
theorem mem_of_take {α : Type} (limit : Limit) {entries : List α} {entry : α}
    (within : entry ∈ limit.take entries) : entry ∈ entries := by
  unfold Limit.take at within
  split at within
  · exact within
  · split at within
    · exact List.mem_of_mem_take within
    · exact List.mem_of_mem_take within

/-- Every log in the order of time is a stored one, with the names of its rule and campaign. -/
theorem newest_stored (given : store.newestLogs = .ok listed) :
    ∀ log ∈ listed, ∃ stored ∈ store.logs, log = store.decorate stored := by
  intro log member
  unfold newestLogs at given
  split at given
  · cases given
    obtain ⟨stored, sorted, rfl⟩ := List.mem_map.mp member
    exact ⟨stored, List.mem_reverse.mp (List.mem_mergeSort.mp sorted), rfl⟩
  · cases given

/-- Every log of a kind that is listed is a stored one, with the names of its rule and campaign. -/
theorem where_stored {keep : ActionLog → Bool} {limit : Limit}
    (given : store.logsWhere keep limit = .ok listed) :
    ∀ log ∈ listed, ∃ stored ∈ store.logs, log = store.decorate stored := by
  intro log member
  unfold logsWhere at given
  cases newest : store.newestLogs with
  | error failure => simp [newest, Except.map] at given
  | ok logs =>
    rw [newest] at given
    cases given
    exact newest_stored newest log (List.mem_filter.mp (mem_of_take limit member)).1

/-! ## Taking out a rule -/

/-- Where identifiers are distinct, taking out one of them takes out one rule. -/
theorem take_out {rules : List Rule} (distinct : (rules.map (·.id)).Nodup) {rule : Rule}
    (stored : rule ∈ rules) :
    ∃ earlier later, rules = earlier ++ rule :: later ∧
      rules.filter (·.id != rule.id) = earlier ++ later := by
  obtain ⟨earlier, later, rfl, before, after⟩ := rules_around distinct stored
  refine ⟨earlier, later, rfl, ?_⟩
  have apart : ∀ other ∈ earlier ++ later, (other.id != rule.id) = true := by
    intro other listed
    exact bne_iff_ne.mpr ((List.mem_append.mp listed).elim (before other) (after other))
  rw [List.filter_append, List.filter_cons]
  simp only [bne_self_eq_false, Bool.false_eq_true, if_false]
  rw [← List.filter_append, List.filter_eq_self.mpr apart]

/-- Another rule is found as before when one is taken out. -/
theorem find_other {rules : List Rule} {id other : String} (apart : other ≠ id) :
    (rules.filter (·.id != id)).find? (·.id == other) = rules.find? (·.id == other) := by
  rw [List.find?_filter]
  congr 1
  funext rule
  by_cases named : rule.id = other
  · simp [named, apart]
  · simp [named]

end Store

namespace Memory

variable {memory : Memory}

/-- The log of an execution is one of the rule that is executed. -/
theorem logged_for_rule {rule : Rule} {metrics : Metrics} {campaignId : Value} {now : Timestamp}
    {log : ActionLog} (made : Executor.logOf rule metrics campaignId now = .valid log) :
    log.ruleId = rule.id := by
  cases campaignId with
  | text content =>
    cases made
    rfl
  | null | bool _ | int _ | float _ | time _ | list _ | record _ => cases made

/-! ## What queries answer -/

/-- The answer of a query is what was asked of the store as it is. -/
theorem query_answer {α : Type} {ask : Store → Except Failure α} {answer : α} {after : Memory}
    (asked : query ask memory = .ok answer after) : ask memory.store = .ok answer := by
  unfold query at asked
  split at asked
  · cases asked
    assumption
  · cases asked

/-- What a query within a limit answers some limit gives. -/
theorem limited_answer {α : Type} {limit : Value} {applies : α → Bool}
    {ask : Limit → Store → Except Failure α} {answer : α} {after : Memory}
    (asked : limited limit applies ask memory = .ok answer after) :
    ∃ bound, ask bound memory.store = .ok answer := by
  obtain ⟨plain, same, answers⟩ := limited_is_query limit applies ask
  rw [same] at asked
  exact answers memory.store answer (query_answer asked)

/-- What a query within a limit answers after another check, some limit gave and passed it. -/
theorem rechecked_answer {α : Type} {model : String} {recheck : α → Checked α} {limit : Value}
    {applies : Option α → Bool} {ask : Limit → Store → Except Failure (Option α)} {again : α}
    {after : Memory}
    (asked : rechecked model recheck (limited limit applies ask) memory = .ok (some again) after) :
    ∃ bound shown, ask bound memory.store = .ok (some shown) ∧ recheck shown = .valid again := by
  obtain ⟨plain, same, answers⟩ := rechecked_limited model recheck limit applies ask
  rw [same] at asked
  exact answers memory.store again (query_answer asked)

section Deletion

variable [IdSupply] {id : String}

/-! ## What deleting does -/

/-- One rule is taken out, with all logs of it; the rest stays as it is and in its order. -/
structure Removes (before : Memory) (rule : Rule) (after : Memory) : Prop where
  rules : ∃ earlier later, before.store.rules = earlier ++ rule :: later ∧
    after.store.rules = earlier ++ later
  others : ∀ id, id ≠ rule.id → after.store.rule? id = before.store.rule? id
  logs : after.store.logs = before.store.logs.filter (·.ruleId ≠ rule.id)
  campaigns : after.store.campaigns = before.store.campaigns
  clock : after.now = before.now
  issued : after.issued = before.issued

/-- A stored rule is deleted, and nothing else. -/
theorem delete_removes (distinct : (memory.store.rules.map (·.id)).Nodup) {rule : Rule}
    (stored : rule ∈ memory.store.rules) :
    ∃ after, repository.deleteRule (.text rule.id) memory = .ok () after ∧
      Removes memory rule after := by
  have found := Store.rule?_of_mem distinct stored
  refine ⟨memory.keep { memory.store with
    rules := memory.store.rules.filter (·.id != rule.id)
    logs := memory.store.logs.filter (·.ruleId != rule.id) } memory.issued, ?_, ?_⟩
  · simp only [repository, change, delete_text, Store.deleteRule, found, Except.map, keep]
  · refine ⟨Store.take_out distinct stored, fun other apart => Store.find_other apart, ?_, rfl,
      rfl, rfl⟩
    refine List.filter_congr fun log _ => ?_
    simp [bne, BEq.beq]

/-! ## What is gone stays gone -/

/-- No rule has the identifier and no log names it, although it was issued. -/
structure Gone (memory : Memory) (id : String) : Prop where
  issuedBefore : ∃ count < memory.issued, id = freshId count
  noRule : memory.store.rule? id = none
  noLog : ∀ log ∈ memory.store.logs, log.ruleId ≠ id

/-- The identifier stays issued, and no rule has it where none had. -/
theorem Gone.of_parts (gone : Gone memory id) {after : Memory} (more : memory.issued ≤ after.issued)
    (noRule : after.store.rule? id = none)
    (fewer : ∀ log ∈ after.store.logs, log.ruleId ≠ id) : Gone after id where
  issuedBefore := by
    obtain ⟨count, before, named⟩ := gone.issuedBefore
    exact ⟨count, by omega, named⟩
  noRule := noRule
  noLog := fewer

/-- A rule that is found is not one that is gone. -/
theorem Gone.apart (gone : Gone memory id) {name : String} {rule : Rule}
    (found : memory.store.rule? name = some rule) : name ≠ id := by
  rintro rfl
  rw [gone.noRule] at found
  cases found

/-- Counting a log for a stored rule brings nothing back. -/
theorem Gone.append (gone : Gone memory id) {rule : Rule} {log : ActionLog}
    (found : memory.store.rule? log.ruleId = some rule) {issued : Nat}
    (more : memory.issued ≤ issued) :
    Gone (memory.keep (memory.store.append memory.now rule log) issued) id := by
  refine gone.of_parts more ?_ ?_
  · simp [keep, Store.rule?_append, gone.noRule]
  · intro other listed
    rcases List.mem_append.mp listed with before | new
    · exact gone.noLog other before
    · exact List.mem_singleton.mp new ▸ gone.apart found

/-- No call brings anything back: a new rule takes a new identifier, changing and counting keep the
identifiers of rules, and logs are recorded for stored rules only. -/
theorem Gone.step (gone : Gone memory id) {call : Call} {reply : Reply} {after : Memory}
    (effect : Effect memory call reply after) : Gone after id := by
  cases effect with
  | kept counted issued more shown => exact gone.of_parts more gone.noRule gone.noLog
  | measured snapshot =>
    obtain ⟨sameRules, sameLogs, more⟩ :=
      Store.upsert_frame memory.store memory.now memory.issued snapshot
    refine gone.of_parts more ?_ (sameLogs ▸ gone.noLog)
    simpa only [keep, Store.rule?, sameRules] using gone.noRule
  | created draft owner =>
    obtain ⟨count, before, named⟩ := gone.issuedBefore
    have apart : freshId memory.issued ≠ id := by
      rintro same
      have equal : memory.issued = count := fresh_id_injective (same.trans named)
      omega
    have noRule : memory.store.rules.find? (·.id == id) = none := gone.noRule
    refine gone.of_parts (by simp only [keep, Store.createRule]; omega) ?_ gone.noLog
    simp [keep, Store.createRule, Store.rule?, noRule, Rule.ofDraft, apart]
  | changed rule change found =>
    refine gone.of_parts (Nat.le_add_right memory.issued change.idCount) ?_ gone.noLog
    simp [keep, Store.rule?_put_rule, gone.noRule]
  | deleted other =>
    refine gone.of_parts (Nat.le_refl memory.issued) ?_ ?_
    · have noRule : ∀ rule ∈ memory.store.rules, ¬ (rule.id == id) = true :=
        List.find?_eq_none.mp gone.noRule
      exact List.find?_eq_none.mpr fun rule listed => noRule rule (List.mem_filter.mp listed).1
    · exact fun log listed => gone.noLog log (List.mem_filter.mp listed).1
  | recorded rule log issued more found first => exact gone.append found more

/-- It does not matter when one looks. -/
theorem Gone.at_moment (gone : Gone memory id) (moment : Int) : Gone (memory.setClock moment) id :=
  ⟨gone.issuedBefore, gone.noRule, gone.noLog⟩

/-- Whatever is called afterwards, what is gone stays gone. -/
theorem Gone.run (gone : Gone memory id) (future : List Event) : Gone (runFrom memory future) id :=
  run_from_induction (motive := fun _ memory => Gone memory id) future
    (fun _ _ event _ _ _ gone effect => (gone.at_moment event.moment).step effect) [] memory gone

/-- What was taken out is gone, if its identifier was issued. -/
theorem Removes.gone {before after : Memory} {rule : Rule} (removes : Removes before rule after)
    (distinct : (before.store.rules.map (·.id)).Nodup)
    (issuedBefore : ∃ count < before.issued, rule.id = freshId count) : Gone after rule.id where
  issuedBefore := removes.issued ▸ issuedBefore
  noRule := by
    obtain ⟨earlier, later, split, taken⟩ := removes.rules
    rw [split, List.map_append, List.map_cons, List.nodup_middle, List.nodup_cons,
      ← List.map_append] at distinct
    refine List.find?_eq_none.mpr fun other listed named => ?_
    rw [taken] at listed
    exact distinct.1 (beq_iff_eq.mp named ▸ List.mem_map_of_mem listed)
  noLog := by
    intro log listed
    rw [removes.logs] at listed
    simpa using (List.mem_filter.mp listed).2

/-! ## What is said of what is gone -/

/-- An operation before which others have made some calls, whatever became of them. -/
def following {α : Type} (events : List Event) (action : Act Memory α) : Act Memory α :=
  fun memory => action (runFrom memory events)

/-- The store as an execution meets it while others use it: they may call before it looks for an
earlier success and before it records. -/
def contended (looking recording : List Event) : Repository Memory :=
  { repository with
    findLog := fun ruleId campaignId action status =>
      following looking (repository.findLog ruleId campaignId action status)
    record := fun log => following recording (repository.record log) }

/-- What comes of every call about a rule that is gone, and what the other calls show of it:
nothing is found, nothing can be changed or recorded, and no rule or log of it is listed. -/
structure Forgotten (memory : Memory) (id : String) : Prop where
  unfound : ∀ limit, repository.rule (.text id) limit memory = .ok none memory
  unchangeable : ∀ change, repository.updateRule (.text id) change memory =
    .error (.ruleNotFound (.text id)) memory
  unswitchable : ∀ isActive made, Repository.switchChange isActive = .valid made →
    repository.setActive (.text id) isActive memory = .error (.ruleNotFound (.text id)) memory
  undeletable : repository.deleteRule (.text id) memory =
    .error (.ruleNotFound (.text id)) memory
  unrecordable : ∀ log, log.ruleId = id → repository.record log memory =
    .error (.ruleNotFound (.text id)) memory
  unlisted : ∀ rule ∈ memory.store.rules, rule.id ≠ id
  unlogged : ∀ log ∈ memory.store.logs, log.ruleId ≠ id
  logs : ∀ ruleId limit listed after, repository.logs ruleId limit memory = .ok listed after →
    ∀ log ∈ listed, log.ruleId ≠ id
  found : ∀ ruleId campaignId action status log after,
    repository.findLog ruleId campaignId action status memory = .ok (some log) after →
      log.ruleId ≠ id
  shown : ∀ other limit shown after, repository.rule other limit memory = .ok (some shown) after →
    ∀ log ∈ shown.recentActions, log.ruleId ≠ id
  campaign : ∀ limit shown after,
    repository.latestCampaignWithLogs limit memory = .ok (some shown) after →
      ∀ log ∈ shown.logs, log.ruleId ≠ id
  /-- Whoever still holds the rule executes it in vain, also if others call between the calls of the
  execution: they alone have changed what it leaves. -/
  executed : ∀ rule metrics campaignId looking reading recording, rule.id = id →
    ∃ failure others,
      Executor.execute (contended looking recording) (following reading clock) rule metrics
        campaignId memory = .error failure (runFrom memory others) ∧
      others.Sublist (looking ++ reading ++ recording)

/-- A rule that is gone is not shown, whatever the limit. -/
theorem Gone.unfound (gone : Gone memory id) (limit : Value) :
    repository.rule (.text id) limit memory = .ok none memory := by
  have missing : ∀ bound, withId (.text id) (.ok none)
      (fun name => memory.store.ruleWithLogs name bound) = .ok none := by
    intro bound
    simp only [withId, id?, bind, Except.bind, Store.ruleWithLogs, gone.noRule]
  have unseen : limited limit Option.isSome (fun bound store =>
      withId (.text id) (.ok none) fun name => store.ruleWithLogs name bound) memory =
        .ok none memory := by
    simp only [limited]
    cases limit? limit <;> simp [query, missing, bind, Except.bind, pure, Except.pure]
  simp only [repository, rechecked, Act.bind_apply, unseen, Act.pure_apply]

/-- A rule that is gone cannot be changed, and is reported as not found. -/
theorem Gone.unchangeable (gone : Gone memory id) (made : RuleChange) :
    repository.updateRule (.text id) made memory = .error (.ruleNotFound (.text id)) memory := by
  simp only [repository, change, withId, id?, bind, Except.bind, Store.updateRule, gone.noRule,
    Except.map]

/-- A rule that is gone cannot be deleted once more. Its identifier is a text, so the report can be
worded. -/
theorem Gone.undeletable (gone : Gone memory id) :
    repository.deleteRule (.text id) memory = .error (.ruleNotFound (.text id)) memory := by
  simp only [repository, change, delete_text, Store.deleteRule, gone.noRule, Except.map]

/-- Nothing is recorded for a rule that is gone, which also holds of what an earlier pass has
decided. -/
theorem Gone.unrecordable (gone : Gone memory id) {log : ActionLog} (named : log.ruleId = id) :
    repository.record log memory = .error (.ruleNotFound (.text id)) memory := by
  simp only [repository, change, Store.record, named, gone.noRule]
  rfl

/-- Logs that are decorated stored ones are of rules that are not gone. -/
theorem Gone.of_stored (gone : Gone memory id) {listed : List ActionLog}
    (stored : ∀ log ∈ listed, ∃ other ∈ memory.store.logs, log = memory.store.decorate other) :
    ∀ log ∈ listed, log.ruleId ≠ id := by
  intro log member
  obtain ⟨other, inStore, rfl⟩ := stored log member
  exact gone.noLog other inStore

/-- No list of logs names a rule that is gone, whatever it is asked for. -/
theorem Gone.logs_apart (gone : Gone memory id) {ruleId limit : Value} {listed : List ActionLog}
    {after : Memory} (given : repository.logs ruleId limit memory = .ok listed after) :
    ∀ log ∈ listed, log.ruleId ≠ id := by
  obtain ⟨bound, answered⟩ := limited_answer given
  exact gone.of_stored (Store.where_stored answered)

/-- No log that is found names a rule that is gone. -/
theorem Gone.found_apart (gone : Gone memory id) {ruleId campaignId action status : Value}
    {log : ActionLog} {after : Memory}
    (given : repository.findLog ruleId campaignId action status memory = .ok (some log) after) :
    log.ruleId ≠ id := by
  have answered := query_answer given
  unfold findLog at answered
  cases newest : memory.store.newestLogs with
  | error failure => simp [newest, Except.map] at answered
  | ok logs =>
    simp only [newest, Except.map, Except.ok.injEq] at answered
    exact gone.of_stored (Store.newest_stored newest) log (List.mem_of_find?_eq_some answered)

/-- No other rule is shown with logs of one that is gone, whatever identifier and limit the caller
gives. -/
theorem Gone.shown_apart (gone : Gone memory id) {other limit : Value} {again : RuleWithLogs}
    {after : Memory} (given : repository.rule other limit memory = .ok (some again) after) :
    ∀ log ∈ again.recentActions, log.ruleId ≠ id := by
  obtain ⟨bound, shown, answered, checked⟩ := rechecked_answer given
  rw [(RuleWithLogs.recheck_valid checked).1]
  unfold withId at answered
  cases named : id? other with
  | error failure => simp [named, bind, Except.bind] at answered
  | ok name =>
    cases name with
    | none => simp [named, bind, Except.bind] at answered
    | some name =>
      simp only [named, bind, Except.bind, Store.ruleWithLogs] at answered
      split at answered
      · cases answered
      · cases listed : memory.store.logsWhere (·.ruleId == name) bound with
        | error failure => simp [listed, Except.map] at answered
        | ok logs =>
          rw [listed] at answered
          cases answered
          exact gone.of_stored (Store.where_stored listed)

/-- The latest campaign is not shown with logs of a rule that is gone. -/
theorem Gone.campaign_apart (gone : Gone memory id) {limit : Value} {again : SnapshotWithLogs}
    {after : Memory}
    (given : repository.latestCampaignWithLogs limit memory = .ok (some again) after) :
    ∀ log ∈ again.logs, log.ruleId ≠ id := by
  obtain ⟨bound, shown, answered, checked⟩ := rechecked_answer given
  rw [(SnapshotWithLogs.recheck_valid checked).1]
  unfold Store.latestCampaignWithLogs at answered
  cases latest : memory.store.latestCampaign with
  | error failure => simp [latest, bind, Except.bind] at answered
  | ok snapshot =>
    cases snapshot with
    | none => simp [latest, bind, Except.bind, pure, Except.pure] at answered
    | some snapshot =>
      cases listed : memory.store.logsWhere (·.campaignId == snapshot.campaignId) bound with
      | error failure => simp [latest, listed, bind, Except.bind] at answered
      | ok logs =>
        simp only [latest, listed, bind, Except.bind, pure, Except.pure, Except.ok.injEq,
          Option.some.injEq] at answered
        subst answered
        exact gone.of_stored (Store.where_stored listed)

/-! ## Those who still hold the rule -/

/-- No success is found of a rule that is gone. -/
theorem Gone.unsuccessful (gone : Gone memory id) {campaignId action status : Value}
    {found : Option ActionLog} {after : Memory}
    (given : repository.findLog (.text id) campaignId action status memory = .ok found after) :
    found = none := by
  cases found with
  | none => rfl
  | some log =>
    exfalso
    have answered := query_answer given
    unfold findLog at answered
    cases newest : memory.store.newestLogs with
    | error failure => simp [newest, Except.map] at answered
    | ok logs =>
      simp only [newest, Except.map, Except.ok.injEq] at answered
      have matched := List.find?_some answered
      simp only [same_text, Bool.and_eq_true, beq_iff_eq] at matched
      exact gone.found_apart given matched.1.1.1

/-- Looking for an earlier success of a rule that is gone finds none or fails. -/
theorem Gone.looked (gone : Gone memory id) (campaignId action status : Value) :
    repository.findLog (.text id) campaignId action status memory = .ok none memory ∨
      ∃ failure, repository.findLog (.text id) campaignId action status memory =
        .error failure memory := by
  cases asked : findLog (.text id) campaignId action status memory.store with
  | error failure => exact .inr ⟨failure, by simp only [repository, query, asked]⟩
  | ok found =>
    have given : repository.findLog (.text id) campaignId action status memory =
        .ok found memory := by simp only [repository, query, asked]
    exact .inl (gone.unsuccessful given ▸ given)

/-- What is left of an execution once no earlier success was found. -/
def recordingOf (reading recording : List Event) (rule : Rule) (metrics : Metrics)
    (campaignId : Value) : Act Memory (Option ActionLog) := do
  let now ← following reading clock
  following recording (repository.record
    (← Act.ofChecked "ActionLog" (Executor.logOf rule metrics campaignId now)))

/-- An execution that comes to recording a log of a rule that is gone is refused. -/
theorem Gone.refused (gone : Gone memory id) {rule : Rule} (named : rule.id = id)
    (metrics : Metrics) (campaignId : Value) (reading recording : List Event) :
    ∃ failure others, recordingOf reading recording rule metrics campaignId memory =
        .error failure (runFrom memory others) ∧ others.Sublist (reading ++ recording) := by
  have clocked : following reading clock memory =
      .ok (runFrom memory reading).now (runFrom memory reading) := rfl
  simp only [recordingOf, Act.bind_apply, clocked]
  cases made : Executor.logOf rule metrics campaignId (runFrom memory reading).now with
  | invalid issues => exact ⟨_, reading, rfl, List.sublist_append_left _ _⟩
  | valid log =>
    have later : Gone (runFrom (runFrom memory reading) recording) id := (gone.run _).run _
    have refused : following recording (repository.record log) (runFrom memory reading) =
        .error (.ruleNotFound (.text id)) (runFrom (runFrom memory reading) recording) :=
      later.unrecordable ((logged_for_rule made).trans named)
    refine ⟨.ruleNotFound (.text id), reading ++ recording, ?_, List.Sublist.refl _⟩
    rw [run_from_append]
    exact refused

/-- A rule that is gone is executed in vain. An earlier success is looked for before, where that
matters, and is not there; so it comes to recording a log, which is refused. -/
theorem Gone.executed (gone : Gone memory id) {rule : Rule} (named : rule.id = id)
    (metrics : Metrics) (campaignId : Value) (looking reading recording : List Event) :
    ∃ failure others,
      Executor.execute (contended looking recording) (following reading clock) rule metrics
        campaignId memory = .error failure (runFrom memory others) ∧
      others.Sublist (looking ++ reading ++ recording) := by
  have unfound : ∀ {looked : Memory},
      Executor.alreadyExecuted (contended looking recording) rule campaignId memory =
        .ok false looked →
      Executor.execute (contended looking recording) (following reading clock) rule metrics
        campaignId memory = recordingOf reading recording rule metrics campaignId looked := by
    intro looked answered
    simp only [Executor.execute, Act.bind_apply, answered]
    rfl
  by_cases repeatable : rule.action.isRepeatable = true
  · have answered : Executor.alreadyExecuted (contended looking recording) rule campaignId memory =
        .ok false memory := by simp [Executor.alreadyExecuted, repeatable]
    obtain ⟨failure, others, refused, among⟩ :=
      gone.refused named metrics campaignId reading recording
    refine ⟨failure, others, (unfound answered).trans refused, ?_⟩
    rw [List.append_assoc]
    exact among.trans (List.sublist_append_right _ _)
  · have later : Gone (runFrom memory looking) rule.id := named ▸ gone.run looking
    have called : (contended looking recording).findLog (.text rule.id) campaignId
        (Vocabulary.toValue rule.action) (Vocabulary.toValue Status.success) memory =
      repository.findLog (.text rule.id) campaignId (Vocabulary.toValue rule.action)
        (Vocabulary.toValue Status.success) (runFrom memory looking) := rfl
    rcases later.looked campaignId (Vocabulary.toValue rule.action)
        (Vocabulary.toValue Status.success) with none | ⟨failure, failed⟩
    · have answered : Executor.alreadyExecuted (contended looking recording) rule campaignId
          memory = .ok false (runFrom memory looking) := by
        simp [Executor.alreadyExecuted, repeatable, called, none]
      obtain ⟨failure, others, refused, among⟩ :=
        later.refused rfl metrics campaignId reading recording
      refine ⟨failure, looking ++ others, ?_, ?_⟩
      · rw [unfound answered, refused, run_from_append]
      · rw [List.append_assoc]
        exact among.append_left looking
    · refine ⟨failure, looking, ?_, ?_⟩
      · simp [Executor.execute, Executor.alreadyExecuted, repeatable, called, failed]
      · rw [List.append_assoc]
        exact List.sublist_append_left _ _

/-- A rule that is gone is forgotten: no operation finds, lists, changes or counts it any more. The
parts are those of the lemmas above. -/
theorem Gone.forgotten (gone : Gone memory id) : Forgotten memory id where
  unfound := gone.unfound
  unchangeable := gone.unchangeable
  unswitchable := by
    intro isActive made checked
    unfold Repository.setActive
    rw [checked]
    exact gone.unchangeable made
  undeletable := gone.undeletable
  unrecordable := fun _ named => gone.unrecordable named
  unlisted := by
    intro rule listed same
    exact List.find?_eq_none.mp gone.noRule rule listed (beq_iff_eq.mpr same)
  unlogged := gone.noLog
  logs := fun _ _ _ _ given => gone.logs_apart given
  found := fun _ _ _ _ _ _ given => gone.found_apart given
  shown := fun _ _ _ _ given => gone.shown_apart given
  campaign := fun _ _ _ given => gone.campaign_apart given
  executed := fun _ metrics campaignId looking reading recording named =>
    gone.executed named metrics campaignId looking reading recording

/-- Deleting a stored rule takes out that rule and the logs of it, and nothing else. Whatever is
called afterwards, at any moment, nothing is found under its identifier, nothing can be done to it,
no log of it is stored or listed, and whoever still holds it executes it in vain. -/
theorem deletion_is_final (history : List Event) (moment : Int) {rule : Rule}
    (stored : rule ∈ (Memory.run history).store.rules) :
    ∃ after, repository.deleteRule (.text rule.id) ((Memory.run history).setClock moment) =
        .ok () after ∧
      Removes ((Memory.run history).setClock moment) rule after ∧
      ∀ future later, Forgotten ((runFrom after future).setClock later) rule.id := by
  have numbered : ((Memory.run history).setClock moment).store.Numbered
      ((Memory.run history).setClock moment).issued := run_numbered history
  obtain ⟨after, deleted, removes⟩ := delete_removes numbered.distinct stored
  have gone : Gone after rule.id :=
    removes.gone numbered.distinct (numbered.issuedBefore rule stored)
  exact ⟨after, deleted, removes, fun future later =>
    ((gone.run future).at_moment later).forgotten⟩

end Deletion

/-- The first rule of the sample has a log when it is deleted. Both are gone afterwards, whatever
follows. -/
theorem sample_deletion :
    ((run sample).store.logsOf (freshId 0)).length = 1 ∧
      ∃ rule ∈ (run sample).store.rules, rule.id = freshId 0 ∧
        ∃ after, repository.deleteRule (.text rule.id) ((run sample).setClock 9) = .ok () after ∧
          Removes ((run sample).setClock 9) rule after ∧
          ∀ future later, Forgotten ((runFrom after future).setClock later) rule.id := by
  refine ⟨by decide +kernel, ?_⟩
  have present : ((run sample).store.rule? (freshId 0)).isSome = true := by decide +kernel
  obtain ⟨rule, found⟩ := Option.isSome_iff_exists.mp present
  have stored := Store.mem_of_rule? found
  exact ⟨rule, stored, Store.id_of_rule? found, deletion_is_final sample 9 stored⟩

end Memory

end AdRules

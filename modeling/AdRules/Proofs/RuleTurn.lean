import AdRules.Executor
import AdRules.Proofs.SharedMemory
import AdRules.Proofs.StoredRules

/-!
# A rule's turn

In its turn a rule is evaluated, and executed if it is triggered. Executing it asks the store twice
whether its action has succeeded on the campaign: once before the log is made and once when it is
recorded. These are two calls, and the clock is looked at between them, so others may have used the
memory before each of the three. A turn either leaves the store to the others or appends one log and
counts it in the same call. Rules are taken to be readable here, as all stored ones are.
-/

namespace AdRules

namespace Memory

/-- Texts name the same when they are equal. -/
theorem same_text (first second : String) :
    (Value.text first).sameName (.text second) = (second == first) :=
  BEq.comm

/-- The words of actions tell them apart. -/
theorem same_action (first second : Action) :
    (Vocabulary.toValue first).sameName (Vocabulary.toValue second) = (second == first) := by
  cases first <;> cases second <;> decide

/-- The words of states tell them apart. -/
theorem same_status (first second : Status) :
    (Vocabulary.toValue first).sameName (Vocabulary.toValue second) = (second == first) := by
  cases first <;> cases second <;> decide

/-- What is looked for before an execution is a success of the rule's action on the campaign. -/
theorem find_success (ruleId campaignId : String) (action : Action) (store : Store) :
    (findLog (.text ruleId) (.text campaignId) (Vocabulary.toValue action)
      (Vocabulary.toValue Status.success) store).map Option.isSome =
      if Timestamp.uniform (store.logs.map (·.triggeredAt)) then
        .ok (store.succeeded ruleId campaignId action)
      else .error .mixedTimes := by
  have sameLogs : findLog (.text ruleId) (.text campaignId) (Vocabulary.toValue action)
      (Vocabulary.toValue Status.success) store =
      store.newestLogs.map fun logs =>
        logs.find? (·.isSuccessOf ruleId campaignId action) := by
    simp only [findLog, same_text, same_action, same_status, ActionLog.isSuccessOf]
  rw [sameLogs]
  exact Store.find_newest _ fun _ => rfl

/-- A success of the rule's action on the campaign keeps the action from being recorded again, as
does a failing look for one. -/
def Withholds (memory : Memory) (rule : Rule) (campaignId : String) : Prop :=
  rule.action.isRepeatable = false ∧
    (Timestamp.uniform (memory.store.logs.map (·.triggeredAt)) = false ∨
      memory.store.succeeded rule.id campaignId rule.action = true)

/-- One call that appends a log, counts it for its rule and leaves all other rules as they
are. -/
structure Appends (before : Memory) (log : ActionLog) (after : Memory) : Prop where
  appended : ∃ stored, after.store.logs = before.store.logs ++ [stored] ∧
    log = after.store.decorate stored
  counted : ∃ current, before.store.rule? log.ruleId = some current ∧
    ∃ counted, after.store.rule? log.ruleId = some counted ∧
      counted.triggerCount = current.triggerCount + 1
  others : ∀ id, id ≠ log.ruleId → after.store.rule? id = before.store.rule? id
  campaigns : after.store.campaigns = before.store.campaigns

/-- Appending a log of a rule that is stored counts it for that rule and touches no other. -/
theorem append_appends {ready : Memory} {current : Rule} (log : ActionLog) (issued : Nat)
    (present : ready.store.rule? log.ruleId = some current) :
    ready.Appends ((ready.store.append ready.now current log).decorate log)
      (ready.keep (ready.store.append ready.now current log) issued) := by
  have named : current.id = log.ruleId := Store.id_of_rule? present
  refine ⟨⟨log, rfl, rfl⟩, ⟨current, present, ?_⟩, ?_, rfl⟩
  · refine ⟨current.triggered log.triggeredAt ready.now, ?_, rfl⟩
    simp [keep, Store.decorate, Store.rule?_append, named, present]
  · intro id other
    have apart : log.ruleId ≠ id := fun same => other same.symm
    simp [keep, Store.rule?_append, named, apart]

/-- The turn of a readable rule begins by looking whether it is triggered. -/
theorem turn_readable {σ : Type} {rule : Rule} (store : Repository σ) (clock : Act σ Timestamp)
    (metrics : Metrics) (campaignId : Value) (readable : rule.Readable) :
    Executor.turn store clock metrics campaignId rule =
      if rule.triggers metrics then Executor.execute store clock rule metrics campaignId
      else pure none := by
  funext state
  rw [Executor.turn, readable.evaluate_eq metrics]
  simp only [Act.bind_apply, Act.ofExcept, Act.pure_apply]

end Memory

variable [IdSupply]

/-- The log of an execution, under the identifier issued for it. -/
def Executor.entry (rule : Rule) (metrics : Metrics) (campaignId : String) (now : Timestamp)
    (issued : Nat) : ActionLog :=
  { id := some (freshId issued)
    ruleId := rule.id
    campaignId := campaignId
    action := rule.action
    actionValue := (rule.actionValue.filter (!·.isEmpty)).getD defaultActionValue
    status := .success
    metrics := metrics
    triggeredAt := now
    completedAt := some now
    ruleName := none
    campaignName := none }

namespace Memory

section Executions

variable (rule : Rule) (metrics : Metrics) (campaignId : String) (memory : Memory)

/-- Whether the action was executed before: never for a repeatable one; for another that is what the
stored logs say, where they can be put in order. -/
theorem already_executed_eq :
    Executor.alreadyExecuted repository rule (.text campaignId) memory =
      if rule.action.isRepeatable then .ok false memory
      else if Timestamp.uniform (memory.store.logs.map (·.triggeredAt)) then
        .ok (memory.store.succeeded rule.id campaignId rule.action) memory
      else .error .mixedTimes memory := by
  by_cases repeatable : rule.action.isRepeatable = true
  · simp [Executor.alreadyExecuted, repeatable]
  · have found := find_success rule.id campaignId rule.action memory.store
    cases looked : findLog (.text rule.id) (.text campaignId) (Vocabulary.toValue rule.action)
        (Vocabulary.toValue Status.success) memory.store with
    | ok log =>
      rw [looked] at found
      by_cases ordered : Timestamp.uniform (memory.store.logs.map (·.triggeredAt)) = true
      · have answer : log.isSome = memory.store.succeeded rule.id campaignId rule.action := by
          simpa [ordered, Except.map] using found
        simp [Executor.alreadyExecuted, repeatable, repository, query, looked, ordered, answer]
      · simp [ordered, Except.map] at found
    | error failure =>
      rw [looked] at found
      by_cases ordered : Timestamp.uniform (memory.store.logs.map (·.triggeredAt)) = true
      · simp [ordered, Except.map] at found
      · have cause : failure = .mixedTimes := by simpa [ordered, Except.map] using found
        simp [Executor.alreadyExecuted, repeatable, repository, query, looked, ordered, cause]

/-- The log of an execution before it is given an identifier. -/
def unrecorded : ActionLog :=
  { Executor.entry rule metrics campaignId memory.now memory.issued with id := none }

/-- The log that is made for a rule names the rule. -/
@[simp] theorem unrecorded_ruleId :
    (unrecorded rule metrics campaignId memory).ruleId = rule.id := rfl

/-- An execution may succeed once when its action may not be repeated. -/
theorem unrecorded_once :
    Store.isOnce (unrecorded rule metrics campaignId memory) = !rule.action.isRepeatable :=
  Bool.and_true _

/-- The log that an execution makes passes its check, as every campaign is named by a text here. -/
theorem log_of_text :
    Executor.logOf rule metrics (.text campaignId) memory.now =
      .valid (unrecorded rule metrics campaignId memory) := rfl

end Executions

/-! ## What a turn comes to -/

/-- The state in which the clock is read for a rule's log: what may be repeated is not looked for
before. -/
def Shared.dated (shared : Shared) (rule : Rule) : Shared :=
  if rule.action.isRepeatable then shared.next else shared.next.next

/-- The state in which a rule's log is recorded, if it is. -/
def Shared.ready (shared : Shared) (rule : Rule) : Shared := (shared.dated rule).next

/-- What becomes of a rule in its turn: the log it records, if any, and the state it leaves. -/
inductive Turn (metrics : Metrics) (campaignId : String) (rule : Rule) (shared : Shared) :
    Option ActionLog → Shared → Prop where
  /-- It is not triggered; nothing is called. -/
  | idle (quiet : rule.triggers metrics = false) : Turn metrics campaignId rule shared none shared
  /-- The look for an earlier success withholds it. -/
  | withheld (due : rule.triggers metrics = true)
      (found : shared.next.memory.Withholds rule campaignId) :
      Turn metrics campaignId rule shared none shared.next
  /-- It was deleted before its log is recorded. -/
  | gone (due : rule.triggers metrics = true)
      (allowed : ¬ shared.next.memory.Withholds rule campaignId)
      (deleted : (shared.ready rule).memory.store.rule? rule.id = none) :
      Turn metrics campaignId rule shared none (shared.ready rule)
  /-- Someone else has executed it meanwhile, or left logs that cannot be looked through. -/
  | refused (due : rule.triggers metrics = true)
      (allowed : ¬ shared.next.memory.Withholds rule campaignId)
      (present : ((shared.ready rule).memory.store.rule? rule.id).isSome)
      (late : (shared.ready rule).memory.Withholds rule campaignId) :
      Turn metrics campaignId rule shared none (shared.ready rule)
  /-- Its log is recorded by one call. -/
  | recorded {log : ActionLog} {after : Memory} (due : rule.triggers metrics = true)
      (allowed : ¬ shared.next.memory.Withholds rule campaignId)
      (still : ¬ (shared.ready rule).memory.Withholds rule campaignId)
      (called : repository.record (unrecorded rule metrics campaignId (shared.dated rule).memory)
        (shared.ready rule).memory = .ok (some log) after)
      (made : log = after.store.decorate (Executor.entry rule metrics campaignId
        (shared.dated rule).memory.now (shared.ready rule).memory.issued))
      (appends : (shared.ready rule).memory.Appends log after) :
      Turn metrics campaignId rule shared (some log) ((shared.ready rule).leave after)

/-- The turns of some rules, one after the other, with the logs that they record. -/
inductive Turns (metrics : Metrics) (campaignId : String) :
    List Rule → Shared → List ActionLog → Shared → Prop where
  | done (shared : Shared) : Turns metrics campaignId [] shared [] shared
  | next {rule : Rule} {rest : List Rule} {shared between after : Shared} {log : Option ActionLog}
      {logs : List ActionLog} (first : Turn metrics campaignId rule shared log between)
      (later : Turns metrics campaignId rest between logs after) :
      Turns metrics campaignId (rule :: rest) shared (log.toList ++ logs) after

variable {campaignId : String} {rule : Rule} {shared : Shared}

/-- The log that a turn records, if any. A turn that fails records none. -/
def logIn : Except Failure (Option ActionLog) → Option ActionLog
  | .ok log => log
  | .error _ => none

/-- The look for an earlier success answers for the store as the others have left it. -/
theorem look_interrupted (once : rule.action.isRepeatable = false) :
    Executor.alreadyExecuted Shared.repository rule (.text campaignId) shared =
      if Timestamp.uniform (shared.next.memory.store.logs.map (·.triggeredAt)) then
        .ok (shared.next.memory.store.succeeded rule.id campaignId rule.action) shared.next
      else .error .mixedTimes shared.next := by
  have sameCall : Executor.alreadyExecuted Shared.repository rule (.text campaignId) shared =
      Shared.interrupted (Executor.alreadyExecuted repository rule (.text campaignId)) shared := by
    simp only [Executor.alreadyExecuted, once, Bool.false_eq_true, if_false, Act.bind_apply,
      Shared.interrupted_apply, Shared.repository]
    cases repository.findLog (.text rule.id) (.text campaignId) (Vocabulary.toValue rule.action)
      (Vocabulary.toValue Status.success) shared.next.memory <;> rfl
  rw [sameCall, Shared.interrupted_apply, already_executed_eq]
  by_cases ordered : Timestamp.uniform (shared.next.memory.store.logs.map (·.triggeredAt)) = true
  · simp [once, ordered]
  · simp [once, ordered]

/-- Once nothing is found, the clock is read and the log is recorded. -/
theorem execute_unfound (metrics : Metrics) {looked : Shared}
    (unfound : Executor.alreadyExecuted Shared.repository rule (.text campaignId) shared =
      .ok false looked) :
    Executor.execute Shared.repository Shared.clock rule metrics (.text campaignId) shared =
      Shared.repository.record (unrecorded rule metrics campaignId looked.next.memory)
        looked.next := by
  simp [Executor.execute, unfound, Shared.clock, clock, log_of_text, Act.ofChecked]

/-- Without a reason to withhold it, an execution comes to recording a log. -/
theorem execute_allowed (metrics : Metrics)
    (allowed : ¬ shared.next.memory.Withholds rule campaignId) :
    Executor.execute Shared.repository Shared.clock rule metrics (.text campaignId) shared =
      Shared.repository.record
        (unrecorded rule metrics campaignId (shared.dated rule).memory) (shared.dated rule) := by
  by_cases repeatable : rule.action.isRepeatable = true
  · have unfound : Executor.alreadyExecuted Shared.repository rule (.text campaignId) shared =
        .ok false shared := by simp [Executor.alreadyExecuted, repeatable]
    rw [execute_unfound metrics unfound, Shared.dated, if_pos repeatable]
  · have once : rule.action.isRepeatable = false := Bool.eq_false_iff.mpr repeatable
    obtain ⟨ordered, new⟩ :
        Timestamp.uniform (shared.next.memory.store.logs.map (·.triggeredAt)) = true ∧
          shared.next.memory.store.succeeded rule.id campaignId rule.action = false := by
      simpa [Withholds, once] using allowed
    have unfound : Executor.alreadyExecuted Shared.repository rule (.text campaignId) shared =
        .ok false shared.next := by simp [look_interrupted once, ordered, new]
    rw [execute_unfound metrics unfound, Shared.dated, if_neg repeatable]

/-- With a reason to withhold it, an execution makes no log. -/
theorem execute_withheld (metrics : Metrics)
    (withheld : shared.next.memory.Withholds rule campaignId) :
    ∃ outcome, (Executor.execute Shared.repository Shared.clock rule metrics
        (.text campaignId)).outcome shared = .ok outcome shared.next ∧ logIn outcome = none := by
  obtain ⟨once, reason⟩ := withheld
  by_cases ordered :
      Timestamp.uniform (shared.next.memory.store.logs.map (·.triggeredAt)) = true
  · have before : shared.next.memory.store.succeeded rule.id campaignId rule.action = true := by
      simpa [ordered] using reason
    exact ⟨.ok none, by simp [Executor.execute, look_interrupted once, ordered, before], rfl⟩
  · exact ⟨.error .mixedTimes, by simp [Executor.execute, look_interrupted once, ordered], rfl⟩

/-! ## Recording -/

/-- An execution of a rule that is not stored any more is not recorded. -/
theorem record_gone (metrics : Metrics) (dated ready : Memory)
    (deleted : ready.store.rule? rule.id = none) :
    repository.record (unrecorded rule metrics campaignId dated) ready =
      .error (.ruleNotFound (.text rule.id)) ready := by
  simp only [repository, Memory.change, Store.record, unrecorded_ruleId, deleted]
  rfl

/-- An execution that is withheld is not recorded. -/
theorem record_withheld (metrics : Metrics) (dated ready : Memory) {current : Rule}
    (present : ready.store.rule? rule.id = some current)
    (withheld : ready.Withholds rule campaignId) :
    ∃ outcome, (repository.record (unrecorded rule metrics campaignId dated)).outcome ready =
      .ok outcome ready ∧ logIn outcome = none := by
  have found : ready.store.rule? (unrecorded rule metrics campaignId dated).ruleId =
      some current := present
  obtain ⟨once, reason⟩ := withheld
  have isOnce : Store.isOnce (unrecorded rule metrics campaignId dated) = true := by
    rw [unrecorded_once, once, Bool.not_false]
  by_cases ordered : Timestamp.uniform (ready.store.logs.map (·.triggeredAt)) = true
  · have before : ready.store.succeeded rule.id campaignId rule.action = true := by
      simpa [ordered] using reason
    have repeated := Store.record_repeated ready.now ready.issued found isOnce ordered before
    exact ⟨.ok none, by simp only [Act.outcome_apply, repository, Memory.change, repeated], rfl⟩
  · have failed := Store.record_unordered ready.now ready.issued found isOnce
      (Bool.eq_false_iff.mpr ordered)
    exact ⟨.error .mixedTimes,
      by simp only [Act.outcome_apply, repository, Memory.change, failed], rfl⟩

/-- An execution that is not withheld is appended, and counted for its rule in the same call. -/
theorem record_allowed (metrics : Metrics) (dated ready : Memory) {current : Rule}
    (present : ready.store.rule? rule.id = some current)
    (allowed : ¬ ready.Withholds rule campaignId) :
    let log := Executor.entry rule metrics campaignId dated.now ready.issued
    repository.record (unrecorded rule metrics campaignId dated) ready =
      .ok (some ((ready.store.append ready.now current log).decorate log))
        (ready.keep (ready.store.append ready.now current log) (ready.issued + 1)) := by
  have found : ready.store.rule? (unrecorded rule metrics campaignId dated).ruleId =
      some current := present
  have checked : Store.isOnce (unrecorded rule metrics campaignId dated) = true →
      Timestamp.uniform (ready.store.logs.map (·.triggeredAt)) = true ∧
        ready.store.succeeded rule.id campaignId rule.action = false := by
    intro isOnce
    rw [unrecorded_once, Bool.not_eq_true'] at isOnce
    simpa [Withholds, isOnce] using allowed
  simp only [repository, Memory.change, Store.record_new ready.now ready.issued found checked]
  rfl

/-- A log that is recorded was appended to the memory in which its rule was found. -/
theorem record_called {metrics : Metrics} {dated ready after : Memory} {log : ActionLog}
    (called : repository.record (unrecorded rule metrics campaignId dated) ready =
      .ok (some log) after) :
    ∃ current, ready.store.rule? rule.id = some current ∧
      let entry := Executor.entry rule metrics campaignId dated.now ready.issued
      log = (ready.store.append ready.now current entry).decorate entry ∧
        after = ready.keep (ready.store.append ready.now current entry) (ready.issued + 1) := by
  cases found : ready.store.rule? rule.id with
  | none =>
    rw [record_gone metrics dated ready found] at called
    cases called
  | some current =>
    refine ⟨current, rfl, ?_⟩
    by_cases late : ready.Withholds rule campaignId
    · obtain ⟨outcome, ended, silent⟩ := record_withheld metrics dated ready found late
      rw [Act.outcome_apply, called] at ended
      cases ended
      cases silent
    · rw [record_allowed metrics dated ready found late] at called
      cases called
      exact ⟨rfl, rfl⟩

/-! ## Turns and passes -/

/-- Every execution that is due comes to an end, and is one of those that are described. -/
theorem execute_interrupted (metrics : Metrics) (campaignId : String) (rule : Rule)
    (shared : Shared) (due : rule.triggers metrics = true) :
    ∃ outcome after,
      (Executor.execute Shared.repository Shared.clock rule metrics (.text campaignId)).outcome
        shared = .ok outcome after ∧ Turn metrics campaignId rule shared (logIn outcome) after := by
  by_cases withheld : shared.next.memory.Withholds rule campaignId
  · obtain ⟨outcome, ended, silent⟩ := execute_withheld metrics withheld
    exact ⟨outcome, shared.next, ended, silent ▸ .withheld due withheld⟩
  · have recording := execute_allowed metrics withheld
    -- The call that records is a call of its own, so from here the store is as the others left it.
    simp only [Act.outcome_apply, recording]
    simp only [← Act.outcome_apply]
    let dated := (shared.dated rule).memory
    let ready := (shared.ready rule).memory
    cases found : ready.store.rule? rule.id with
    | none =>
      have gone : (repository.record (unrecorded rule metrics campaignId dated)).outcome ready =
          .ok (.error (.ruleNotFound (.text rule.id))) ready := by
        rw [Act.outcome_apply, record_gone metrics dated ready found]
      exact ⟨_, _, Shared.outcome_interrupted gone, .gone due withheld found⟩
    | some current =>
      by_cases late : ready.Withholds rule campaignId
      · obtain ⟨outcome, ended, silent⟩ := record_withheld metrics dated ready found late
        exact ⟨outcome, _, Shared.outcome_interrupted ended,
          silent ▸ .refused due withheld (found ▸ rfl) late⟩
      · have recorded := record_allowed metrics dated ready found late
        let entry := Executor.entry rule metrics campaignId dated.now ready.issued
        have appends := append_appends entry (ready.issued + 1) found
        have ended : (repository.record (unrecorded rule metrics campaignId dated)).outcome ready =
            .ok (.ok (some ((ready.store.append ready.now current entry).decorate entry)))
              (ready.keep (ready.store.append ready.now current entry) (ready.issued + 1)) := by
          rw [Act.outcome_apply, recorded]
        exact ⟨_, _, Shared.outcome_interrupted ended,
          .recorded due withheld late recorded rfl appends⟩

/-- Every turn comes to an end, and is one of those that are described. -/
theorem turn_interrupted (metrics : Metrics) (campaignId : String) (readable : rule.Readable)
    (shared : Shared) :
    ∃ outcome after,
      (Executor.turn Shared.repository Shared.clock metrics (.text campaignId) rule).outcome
        shared = .ok outcome after ∧
      Turn metrics campaignId rule shared (logIn outcome) after := by
  rw [turn_readable _ _ metrics _ readable]
  by_cases due : rule.triggers metrics = true
  · rw [if_pos due]
    exact execute_interrupted metrics campaignId rule shared due
  · rw [if_neg due]
    exact ⟨.ok none, shared, rfl, .idle (Bool.eq_false_iff.mpr due)⟩

/-- The turns of some rules come to an end, whatever others do. By induction on the rules: a turn
that fails leaves the next one to be taken. -/
theorem turns_interrupted (metrics : Metrics) (campaignId : String) (rules : List Rule)
    (readable : ∀ rule ∈ rules, rule.Readable) (shared : Shared) :
    ∃ logs after,
      Executor.turns Shared.repository Shared.clock metrics (.text campaignId) rules shared =
        .ok logs after ∧ Turns metrics campaignId rules shared logs after := by
  induction rules generalizing shared with
  | nil => exact ⟨[], shared, rfl, .done shared⟩
  | cons rule rest inductionHypothesis =>
    rw [List.forall_mem_cons] at readable
    obtain ⟨outcome, between, ended, turn⟩ :=
      turn_interrupted metrics campaignId readable.1 shared
    obtain ⟨logs, after, rested, turns⟩ := inductionHypothesis readable.2 between
    refine ⟨(logIn outcome).toList ++ logs, after, ?_, .next turn turns⟩
    simp only [Executor.turns, Act.bind_apply, ended, rested]
    cases outcome with
    | ok log => cases log <;> rfl
    | error failure => rfl

/-- A log that is recorded in a turn is one of the rule whose turn it is. -/
theorem Turn.ruleId_eq {metrics : Metrics} {log : ActionLog} {between : Shared}
    (turn : Turn metrics campaignId rule shared (some log) between) : log.ruleId = rule.id := by
  cases turn with
  | recorded due allowed still called made appends =>
    rw [made]
    rfl

/-- When a rule's log is recorded, only time has passed since its turn began. -/
theorem Shared.Alone.ready (alone : shared.Alone) (rule : Rule) :
    shared.Waited (shared.ready rule) := by
  unfold Shared.ready Shared.dated
  split
  · exact alone.waited.next
  · exact alone.waited.next.next

/-- A turn adds the log that it records, if any. -/
theorem Turn.adds {metrics : Metrics} {log : Option ActionLog} {between : Shared}
    (turn : Turn metrics campaignId rule shared log between) (alone : shared.Alone) :
    shared.Adds log.toList between := by
  have ready := alone.ready rule
  cases turn with
  | idle quiet => exact alone.still.adds
  | withheld due found => exact alone.waited.adds
  | gone due allowed deleted => exact ready.adds
  | refused due allowed present late => exact ready.adds
  | @recorded log after due allowed still called made appends =>
    obtain ⟨current, present, _, left⟩ := record_called called
    let entry := Executor.entry rule metrics campaignId (shared.dated rule).memory.now
      (shared.ready rule).memory.issued
    have named : current.id = rule.id := Store.id_of_rule? present
    have names : after.store.decorate = shared.memory.store.decorate := by
      rw [left, ← ready.store]
      exact Store.decorate_append entry _ (named.symm ▸ present)
    refine ⟨⟨[entry], ?_, ?_⟩, ?_, names, ready.alone.leave after⟩
    · rw [made, names]
      rfl
    · rw [← ready.store]
      exact congrArg (·.store.logs) left
    · exact appends.campaigns.trans (congrArg Store.campaigns ready.store)

/-- Turns add the logs that they record. -/
theorem Turns.adds {metrics : Metrics} {rules : List Rule} {logs : List ActionLog} {after : Shared}
    (turns : Turns metrics campaignId rules shared logs after) (alone : shared.Alone) :
    shared.Adds logs after := by
  induction turns with
  | done shared => exact alone.still.adds
  | next first later inductionHypothesis =>
    have adds := first.adds alone
    exact adds.trans (inductionHypothesis adds.alone)

end Memory

end AdRules

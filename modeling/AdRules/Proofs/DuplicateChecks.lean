import AdRules.Proofs.Counters
import AdRules.Proofs.RuleTurn

/-!
# One check for a repetition or two

Executing an action looks for an earlier success before anything is recorded, and recording looks
for one again. In memory the second check alone does as well: whatever rule is executed, also one
that was changed or deleted after it had been read, leaving the first check out changes neither what
comes of the execution nor what is stored. The reason is that logs belong to stored rules, so that
the first check never finds a success of a rule that recording would refuse. Only where the times of
the logs cannot be put in order may the two ways fail for different reasons.
-/

namespace AdRules

/-- Executes the action of a rule and leaves it to the repository to look for an earlier success. -/
def Executor.executeUnchecked {σ : Type} (repository : Repository σ) (clock : Act σ Timestamp)
    (rule : Rule) (metrics : Metrics) (campaignId : Value) : Act σ (Option ActionLog) := do
  let now ← clock
  repository.record (← Act.ofChecked "ActionLog" (logOf rule metrics campaignId now))

namespace Memory

variable {rule : Rule} {metrics : Metrics} {campaignId : Value} {memory : Memory}

/-! ## The check before an execution -/

/-- What is no text is not the name of anything that is stored under a text. -/
theorem unnamed_by {value : Value} (shape : ∀ content, value ≠ .text content) (name : String) :
    value.sameName (.text name) = false := by
  cases value with
  | text content => exact (shape content rfl).elim
  | null | bool _ | int _ | float _ | time _ | list _ | record _ =>
    simp [Value.sameName, Value.number?]

section Checks

variable [IdSupply]

/-- Where the logs can be put in order the check has an answer, and it only finds successes of the
rule's action on the campaign, which is given as a text then. -/
theorem already_executed_course
    (ordered : Timestamp.uniform (memory.store.logs.map (·.triggeredAt)) = true) :
    ∃ before, Executor.alreadyExecuted repository rule campaignId memory = .ok before memory ∧
      (before = true → rule.action.isRepeatable = false ∧ ∃ campaign,
        campaignId = .text campaign ∧
          memory.store.succeeded rule.id campaign rule.action = true) := by
  by_cases repeatable : rule.action.isRepeatable = true
  · exact ⟨false, by simp [Executor.alreadyExecuted, repeatable], by simp⟩
  by_cases text : ∃ campaign, campaignId = .text campaign
  · obtain ⟨campaign, rfl⟩ := text
    refine ⟨memory.store.succeeded rule.id campaign rule.action, ?_, ?_⟩
    · simp [already_executed_eq, repeatable, ordered]
    · exact fun found => ⟨Bool.eq_false_iff.mpr repeatable, campaign, rfl, found⟩
  · have unnamed := unnamed_by (not_exists.mp text)
    refine ⟨false, ?_, by simp⟩
    simp [Executor.alreadyExecuted, repeatable, repository, query, findLog, unnamed,
      Store.newestLogs, ordered, Except.map]

/-- Where they cannot, the check fails for every action that may not be repeated. -/
theorem already_executed_disordered (unrepeatable : rule.action.isRepeatable = false)
    (disordered : Timestamp.uniform (memory.store.logs.map (·.triggeredAt)) = false) :
    Executor.alreadyExecuted repository rule campaignId memory = .error .mixedTimes memory := by
  simp [Executor.alreadyExecuted, unrepeatable, repository, query, findLog, Store.newestLogs,
    disordered, Except.map]

/-! ## The check when an execution is recorded -/

/-- Recording finds a success wherever one is stored, since its rule is stored then. -/
theorem record_withheld_again {campaign : String}
    (owned : ∀ log ∈ memory.store.logs, log.ruleId ∈ memory.store.rules.map (·.id))
    (ordered : Timestamp.uniform (memory.store.logs.map (·.triggeredAt)) = true)
    (unrepeatable : rule.action.isRepeatable = false)
    (before : memory.store.succeeded rule.id campaign rule.action = true) :
    Executor.executeUnchecked repository clock rule metrics (.text campaign) memory =
      .ok none memory := by
  obtain ⟨log, stored, success⟩ := List.any_eq_true.mp before
  have sameRule : log.ruleId = rule.id := by
    simp only [ActionLog.isSuccessOf, Bool.and_eq_true, beq_iff_eq] at success
    exact success.1.1.1
  have present : (memory.store.rule? rule.id).isSome = true :=
    Store.rule?_isSome.mpr (sameRule ▸ owned log stored)
  obtain ⟨current, found⟩ := Option.isSome_iff_exists.mp present
  have once : Store.isOnce (unrecorded rule metrics campaign memory) = true := by
    rw [unrecorded_once, unrepeatable, Bool.not_false]
  have withheld : memory.store.record memory.now memory.issued
      (unrecorded rule metrics campaign memory) = .ok (none, memory.store, memory.issued) :=
    Store.record_repeated memory.now memory.issued found once ordered before
  simp [Executor.executeUnchecked, clock, log_of_text, Act.ofChecked, repository, change, withheld]

/-- Where the logs cannot be put in order, executing an action that may not be repeated fails
without the first check as well: for its campaign, for its rule, or in the second check. -/
theorem record_disordered (unrepeatable : rule.action.isRepeatable = false)
    (disordered : Timestamp.uniform (memory.store.logs.map (·.triggeredAt)) = false) :
    ∃ failure, Executor.executeUnchecked repository clock rule metrics campaignId memory =
      .error failure memory := by
  cases campaignId with
  | null | bool _ | int _ | float _ | time _ | list _ | record _ => exact ⟨_, rfl⟩
  | text campaign =>
    cases found : memory.store.rule? rule.id with
    | none =>
      refine ⟨.ruleNotFound (.text rule.id), ?_⟩
      simp only [Executor.executeUnchecked, Act.bind_apply, clock, log_of_text, Act.ofChecked,
        Act.pure_apply, repository, change, Store.record, unrecorded_ruleId, found]
      rfl
    | some current =>
      have once : Store.isOnce (unrecorded rule metrics campaign memory) = true := by
        rw [unrecorded_once, unrepeatable, Bool.not_false]
      have refused : memory.store.record memory.now memory.issued
          (unrecorded rule metrics campaign memory) = .error .mixedTimes :=
        Store.record_unordered memory.now memory.issued found once disordered
      refine ⟨.mixedTimes, ?_⟩
      simp [Executor.executeUnchecked, clock, log_of_text, Act.ofChecked, repository, change,
        refused]

/-! ## The two ways of executing an action -/

/-- An execution is what its first check makes of it. -/
theorem execute_of_answer {before : Bool}
    (answer : Executor.alreadyExecuted repository rule campaignId memory = .ok before memory) :
    Executor.execute repository clock rule metrics campaignId memory =
      if before then .ok none memory
      else Executor.executeUnchecked repository clock rule metrics campaignId memory := by
  cases before <;> simp [Executor.execute, Executor.executeUnchecked, answer]

/-- Where every log belongs to a stored rule, the two ways of executing an action agree wherever the
logs can be put in order. Elsewhere they differ at most in why they fail. -/
theorem execute_agrees_or_fails
    (owned : ∀ log ∈ memory.store.logs, log.ruleId ∈ memory.store.rules.map (·.id)) :
    let checked := Executor.execute repository clock rule metrics campaignId memory
    let unchecked := Executor.executeUnchecked repository clock rule metrics campaignId memory
    checked = unchecked ∨
      Timestamp.uniform (memory.store.logs.map (·.triggeredAt)) = false ∧
        checked = .error .mixedTimes memory ∧ ∃ failure, unchecked = .error failure memory := by
  intro checked unchecked
  cases ordered : Timestamp.uniform (memory.store.logs.map (·.triggeredAt)) with
  | true =>
    obtain ⟨before, answer, found⟩ := already_executed_course ordered
    have executed : checked = if before then .ok none memory else unchecked :=
      execute_of_answer answer
    cases before with
    | false => exact .inl executed
    | true =>
      obtain ⟨unrepeatable, campaign, rfl, earlier⟩ := found rfl
      have withheld : unchecked = .ok none memory :=
        record_withheld_again owned ordered unrepeatable earlier
      exact .inl (executed.trans withheld.symm)
  | false =>
    by_cases repeatable : rule.action.isRepeatable = true
    · have answer : Executor.alreadyExecuted repository rule campaignId memory =
          .ok false memory := by simp [Executor.alreadyExecuted, repeatable]
      exact .inl (execute_of_answer answer)
    · have unrepeatable := Bool.eq_false_iff.mpr repeatable
      have unanswered : Executor.alreadyExecuted repository rule campaignId memory =
          .error .mixedTimes memory := already_executed_disordered unrepeatable ordered
      have failed : checked = .error .mixedTimes memory := by
        simp [checked, Executor.execute, unanswered]
      exact .inr ⟨rfl, failed, record_disordered unrepeatable ordered⟩

/-- After every history whose logs show times without an offset, executing the action of any rule
for any campaign, with the first check or without it, has the same result or the same failure and
leaves the same memory. What recording would accept the first check never keeps from being recorded.
In histories with times of both kinds the two ways may fail for different reasons, and nothing else.
-/
theorem duplicate_checks_agree (history : List Event) (moment : Int) (rule : Rule)
    (metrics : Metrics) (campaignId : Value) :
    let memory := (run history).setClock moment
    let checked := Executor.execute repository clock rule metrics campaignId memory
    let unchecked := Executor.executeUnchecked repository clock rule metrics campaignId memory
    ((∀ log ∈ memory.store.logs, log.triggeredAt.isAware = false) →
      checked = unchecked ∧
        ∀ log after, unchecked = .ok (some log) after →
          Executor.alreadyExecuted repository rule campaignId memory = .ok false memory) ∧
    (checked ≠ unchecked →
      checked = .error .mixedTimes memory ∧ ∃ failure, unchecked = .error failure memory) := by
  intro memory checked unchecked
  have agrees : checked = unchecked ∨
      Timestamp.uniform (memory.store.logs.map (·.triggeredAt)) = false ∧
        checked = .error .mixedTimes memory ∧ ∃ failure, unchecked = .error failure memory :=
    execute_agrees_or_fails (run_tallied history).owned
  refine ⟨fun naive => ?_, fun apart => (agrees.resolve_left apart).2⟩
  have ordered : Timestamp.uniform (memory.store.logs.map (·.triggeredAt)) = true := by
    apply Timestamp.uniform_of_naive
    simpa using naive
  have same : checked = unchecked := agrees.resolve_right (by simp [ordered])
  refine ⟨same, fun log after accepted => ?_⟩
  obtain ⟨before, answer, -⟩ := already_executed_course ordered
  have executed : checked = if before then .ok none memory else unchecked :=
    execute_of_answer answer
  cases before with
  | false => exact answer
  | true =>
    rw [same, accepted] at executed
    simp at executed

end Checks

/-- After a rule has paused a campaign, one check does for every stored rule what two do, for the
rule that has paused it and for the others. -/
theorem sample_checked_twice :
    let memory := (run (sample.take 3)).setClock 5
    (∀ log ∈ memory.store.logs, log.triggeredAt.isAware = false) ∧
      ∀ rule ∈ memory.store.rules,
        Executor.execute repository clock rule unspent (.text "summer") memory =
          Executor.executeUnchecked repository clock rule unspent (.text "summer") memory := by
  intro memory
  have naive : ∀ log ∈ memory.store.logs, log.triggeredAt.isAware = false := by decide +kernel
  refine ⟨naive, fun rule _ => ?_⟩
  exact ((duplicate_checks_agree (sample.take 3) 5 rule unspent (.text "summer")).1 naive).1

end Memory

end AdRules

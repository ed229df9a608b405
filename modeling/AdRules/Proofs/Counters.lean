import AdRules.Proofs.StoredRules

/-!
# Counters and logs

A rule keeps how often it was triggered and when it was last, and the store keeps the logs. Both are
written when an execution is recorded and by nothing else; they agree in every history. The logs of
a rule that is still stored are all that were ever recorded for it, because deleting a rule is the
only way to lose logs and an identifier is never issued again. So what was triggered last is what
was recorded last, whatever the times of the logs say.
-/

namespace AdRules

/-- A log without the names that are only looked up for display. -/
def ActionLog.unnamed (log : ActionLog) : ActionLog :=
  { log with ruleName := none, campaignName := none }

/-- Decorating a log with the names of its rule and campaign changes nothing but these names. -/
@[simp] theorem Store.unnamed_decorate (store : Store) (log : ActionLog) :
    (store.decorate log).unnamed = log.unnamed := rfl

namespace Memory

variable {memory after : Memory} {reply : Reply} {past : List ActionLog}

/-- The counters of a rule are those of its stored logs, and these are the ones of all that were
recorded so far that belong to it. -/
structure Tally (past : List ActionLog) (store : Store) (rule : Rule) : Prop where
  count : rule.triggerCount = (store.logsOf rule.id).length
  last : rule.lastTriggered = (store.logsOf rule.id).getLast?.map (·.triggeredAt)
  complete : (store.logsOf rule.id).map (·.unnamed) =
    (past.filter (·.ruleId == rule.id)).map (·.unnamed)

/-- A tally depends on the logs of the rule alone. -/
theorem Tally.of_logs {store other : Store} {rule changed : Rule} (tally : Tally past store rule)
    (sameLogs : other.logsOf rule.id = store.logsOf rule.id) (sameId : changed.id = rule.id)
    (sameCount : changed.triggerCount = rule.triggerCount)
    (sameLast : changed.lastTriggered = rule.lastTriggered) : Tally past other changed where
  count := by rw [sameCount, sameId, sameLogs, tally.count]
  last := by rw [sameLast, sameId, sameLogs, tally.last]
  complete := by rw [sameId, sameLogs, tally.complete]

section Agreement

variable [IdSupply]

/-- The counters of every rule agree with the logs, every log belongs to a rule, and no log was ever
recorded for a rule whose identifier has not been issued. -/
structure Tallied (past : List ActionLog) (memory : Memory) : Prop where
  owned : ∀ log ∈ memory.store.logs, log.ruleId ∈ memory.store.rules.map (·.id)
  tally : ∀ rule ∈ memory.store.rules, Tally past memory.store rule
  issuedBefore : ∀ log ∈ past, ∃ count < memory.issued, log.ruleId = freshId count

/-- Nothing is stored or was recorded under an identifier that is yet to be issued. -/
theorem Tallied.unused (tallied : Tallied past memory)
    (numbered : memory.store.Numbered memory.issued) :
    memory.store.logsOf (freshId memory.issued) = [] ∧
      past.filter (·.ruleId == freshId memory.issued) = [] := by
  constructor
  · simp only [Store.logsOf, List.filter_eq_nil_iff, beq_iff_eq]
    intro log stored same
    exact numbered.fresh (same ▸ tallied.owned log stored)
  · simp only [List.filter_eq_nil_iff, beq_iff_eq]
    intro log listed same
    obtain ⟨count, before, issuedAs⟩ := tallied.issuedBefore log listed
    have equal : count = memory.issued := fresh_id_injective (issuedAs.symm.trans same)
    omega

/-- Counters and logs agree as long as neither rules nor logs change. -/
theorem Tallied.of_store (tallied : Tallied past memory) {store : Store} {issued : Nat}
    (sameRules : store.rules = memory.store.rules) (sameLogs : store.logs = memory.store.logs)
    (more : memory.issued ≤ issued) : Tallied past (memory.keep store issued) where
  owned := by
    simp only [keep, sameRules, sameLogs]
    exact tallied.owned
  tally := by
    intro rule member
    have logs : store.logsOf rule.id = memory.store.logsOf rule.id := by
      simp only [Store.logsOf, sameLogs]
    simp only [keep, sameRules] at member
    exact (tallied.tally rule member).of_logs logs rfl rfl rfl
  issuedBefore := by
    intro log listed
    obtain ⟨count, before, issuedAs⟩ := tallied.issuedBefore log listed
    exact ⟨count, by simp only [keep]; omega, issuedAs⟩

/-- A new rule has no logs and counts none; the others keep theirs. -/
theorem tallied_created (tallied : Tallied past memory)
    (numbered : memory.store.Numbered memory.issued) (draft : RuleDraft) (owner : Option String) :
    Tallied past
      (memory.keep (memory.store.createRule memory.now memory.issued draft owner).2.1
        (memory.store.createRule memory.now memory.issued draft owner).2.2) where
  owned := by
    intro log stored
    simp only [keep, Store.createRule, List.map_append]
    exact List.mem_append_left _ (tallied.owned log stored)
  tally := by
    intro rule member
    simp only [keep, Store.createRule] at member
    rcases List.mem_append.mp member with before | new
    · exact (tallied.tally rule before).of_logs rfl rfl rfl rfl
    · have same : rule = Rule.ofDraft memory.now memory.issued draft owner :=
        List.mem_singleton.mp new
      obtain ⟨noLogs, noPast⟩ := tallied.unused numbered
      have noLogsAfter : (memory.store.createRule memory.now memory.issued draft owner).2.1.logsOf
          (freshId memory.issued) = [] := noLogs
      subst same
      exact ⟨by simp [keep, Rule.ofDraft, noLogsAfter], by simp [keep, Rule.ofDraft, noLogsAfter],
        by simp [keep, Rule.ofDraft, noLogsAfter, noPast]⟩
  issuedBefore := by
    intro log listed
    obtain ⟨count, before, issuedAs⟩ := tallied.issuedBefore log listed
    exact ⟨count, by simp only [keep, Store.createRule]; omega, issuedAs⟩

/-- A change of a rule leaves its counters and all logs as they are. -/
theorem tallied_changed (tallied : Tallied past memory) (rule : Rule) (change : RuleChange)
    (found : memory.store.rule? rule.id = some rule) :
    Tallied past
      (memory.keep (memory.store.putRule (change.apply memory.now memory.issued rule))
        (memory.issued + change.idCount)) where
  owned := by
    intro log stored
    simp only [keep, Store.put_rule_ids]
    exact tallied.owned log stored
  tally := by
    intro other member
    rcases Store.mem_put_rule member with rfl | ⟨before, _⟩
    · exact (tallied.tally rule (Store.mem_of_rule? found)).of_logs rfl rfl rfl rfl
    · exact (tallied.tally other before).of_logs rfl rfl rfl rfl
  issuedBefore := by
    intro log listed
    obtain ⟨count, before, issuedAs⟩ := tallied.issuedBefore log listed
    exact ⟨count, by simp only [keep]; omega, issuedAs⟩

/-- Deleting a rule takes exactly its own logs with it, so the counters of the other rules still
agree with what is left. -/
theorem tallied_deleted (tallied : Tallied past memory) (id : String) :
    Tallied past
      (memory.keep
        { memory.store with
          rules := memory.store.rules.filter (·.id != id)
          logs := memory.store.logs.filter (·.ruleId != id) } memory.issued) where
  owned := by
    intro log stored
    obtain ⟨before, other⟩ := List.mem_filter.mp stored
    obtain ⟨rule, inStore, named⟩ := List.mem_map.mp (tallied.owned log before)
    have kept : rule ∈ memory.store.rules.filter (·.id != id) :=
      List.mem_filter.mpr ⟨inStore, named.symm ▸ other⟩
    exact List.mem_map.mpr ⟨rule, kept, named⟩
  tally := by
    intro rule member
    obtain ⟨before, other⟩ := List.mem_filter.mp member
    refine (tallied.tally rule before).of_logs ?_ rfl rfl rfl
    simp only [keep, Store.logsOf, List.filter_filter]
    apply List.filter_congr
    intro log _
    by_cases same : log.ruleId = rule.id <;> simp_all
  issuedBefore := tallied.issuedBefore

/-- Recording a log adds it to the logs of its rule, counts it there once, and makes it the last. -/
theorem tallied_recorded (tallied : Tallied past memory)
    (numbered : memory.store.Numbered memory.issued) (rule : Rule) (log : ActionLog) (issued : Nat)
    (more : memory.issued ≤ issued) (found : memory.store.rule? log.ruleId = some rule) :
    Tallied (past ++ [(memory.store.append memory.now rule log).decorate log])
      (memory.keep (memory.store.append memory.now rule log) issued) where
  owned := by
    intro other stored
    have ids : (memory.store.append memory.now rule log).rules.map (·.id) =
        memory.store.rules.map (·.id) := Store.put_rule_ids
    simp only [keep, ids]
    rcases List.mem_append.mp stored with before | new
    · exact tallied.owned other before
    · have same : other = log := List.mem_singleton.mp new
      exact same ▸ Store.rule?_isSome.mp (by simp [found])
  tally := by
    intro other member
    have own : rule.id = log.ruleId := Store.id_of_rule? found
    have stored := tallied.tally rule (Store.mem_of_rule? found)
    rcases Store.mem_put_rule member with rfl | ⟨before, different⟩
    · have logs : (memory.store.append memory.now rule log).logsOf rule.id =
          memory.store.logsOf rule.id ++ [log] := by simp [Store.logs_of_append, own]
      refine ⟨?_, ?_, ?_⟩
      · simp [keep, Rule.triggered, logs, stored.count]
      · simp [keep, Rule.triggered, logs]
      · simp [keep, Rule.triggered, logs, stored.complete, ← own]
    · have apart : log.ruleId ≠ other.id := by
        intro same
        exact different (same.symm.trans own.symm)
      have logs : (memory.store.append memory.now rule log).logsOf other.id =
          memory.store.logsOf other.id := by simp [Store.logs_of_append, apart]
      have tally := tallied.tally other before
      refine ⟨?_, ?_, ?_⟩
      · simp [keep, logs, tally.count]
      · simp [keep, logs, tally.last]
      · simp [keep, logs, tally.complete, apart]
  issuedBefore := by
    intro other listed
    rcases List.mem_append.mp listed with before | new
    · obtain ⟨count, earlier, issuedAs⟩ := tallied.issuedBefore other before
      exact ⟨count, by simp only [keep]; omega, issuedAs⟩
    · obtain ⟨count, earlier, issuedAs⟩ := numbered.issuedBefore rule (Store.mem_of_rule? found)
      have same : other.ruleId = log.ruleId := by rw [List.mem_singleton.mp new]; rfl
      refine ⟨count, by simp only [keep]; omega, ?_⟩
      exact same.trans ((Store.id_of_rule? found).symm.trans issuedAs)

/-- Every step keeps counters and logs in agreement. -/
theorem tallied_step (step : Step memory reply after) (tallied : Tallied past memory)
    (numbered : memory.store.Numbered memory.issued) :
    Tallied (past ++ reply.recorded.toList) after := by
  obtain ⟨call, effect⟩ := step
  cases effect with
  | kept counted issued more shown => simpa using tallied.of_store rfl rfl more
  | measured snapshot =>
    obtain ⟨sameRules, sameLogs, more⟩ :=
      Store.upsert_frame memory.store memory.now memory.issued snapshot
    simpa [Reply.other] using tallied.of_store sameRules sameLogs more
  | created draft owner =>
    simpa [Reply.showing] using tallied_created tallied numbered draft owner
  | changed rule change found =>
    simpa [Reply.showing] using tallied_changed tallied rule change found
  | deleted id => simpa [Reply.other] using tallied_deleted tallied id
  | recorded rule log issued more found first =>
    exact tallied_recorded tallied numbered rule log issued more found

/-- In every history counters and logs agree. -/
theorem run_tallied (history : List Event) : Tallied (recorded history) (run history) := by
  have both : (run history).store.Numbered (run history).issued ∧
      Tallied (recorded history) (run history) := by
    refine run_induction
      (motive := fun past memory => memory.store.Numbered memory.issued ∧ Tallied past memory)
      ?_ ?_ history
    · exact ⟨run_numbered [], by simp [start, Store.empty], by simp [start, Store.empty], by simp⟩
    · rintro past memory moment reply after ⟨numbered, tallied⟩ step
      refine ⟨numbered_step step rfl numbered, tallied_step step ?_ numbered⟩
      exact ⟨tallied.owned, tallied.tally, tallied.issuedBefore⟩
  exact both.2

/-- In every history each log belongs to a stored rule. Each rule counts exactly its logs, which are
all that were recorded for it, and was last triggered when the one recorded last was; it was never
triggered exactly when it has no logs. Whatever is called next, the rules that the reply shows with
a number of logs show the number that they count and that is stored then. -/
theorem counters_agree (history : List Event) :
    (∀ log ∈ (run history).store.logs, ∃ rule ∈ (run history).store.rules, rule.id = log.ruleId) ∧
      (∀ rule ∈ (run history).store.rules,
        rule.triggerCount = ((run history).store.logsOf rule.id).length ∧
          ((run history).store.logsOf rule.id).map (·.unnamed) =
            ((recorded history).filter (·.ruleId == rule.id)).map (·.unnamed) ∧
          (rule.lastTriggered = none ↔ (run history).store.logsOf rule.id = []) ∧
          rule.lastTriggered =
            ((recorded history).filter (·.ruleId == rule.id)).getLast?.map (·.triggeredAt)) ∧
      ∀ event : Event, ∀ shown ∈ (event.answer (run history)).1.counted,
        shown.logCount = some (shown.triggerCount : Int) ∧
          shown.triggerCount =
            ((event.answer (run history)).2.store.logsOf shown.id).length := by
  have tallied := run_tallied history
  refine ⟨?_, ?_, ?_⟩
  · intro log stored
    exact List.mem_map.mp (tallied.owned log stored)
  · intro rule stored
    have tally := tallied.tally rule stored
    refine ⟨tally.count, tally.complete, ?_, ?_⟩
    · simp [tally.last]
    · have last := congrArg (fun logs => logs.getLast?.map (·.triggeredAt)) tally.complete
      simpa [tally.last, Function.comp_def, ActionLog.unnamed] using last
  · intro event shown member
    have step : Step ((run history).setClock event.moment) (event.answer (run history)).1
        (event.answer (run history)).2 := call_step event.call
    obtain ⟨rule, stored, name, rfl⟩ := step.shown shown member
    have tally := (run_append history event ▸ run_tallied (history ++ [event])).tally rule stored
    exact ⟨by simp [Store.withCount, tally.count], tally.count⟩

end Agreement

example : (run sample).store.rules.map (·.triggerCount) = [1, 0] := by decide +kernel

end Memory

end AdRules

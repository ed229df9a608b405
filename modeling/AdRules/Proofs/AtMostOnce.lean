import AdRules.Proofs.Histories

/-!
# Actions that succeed at most once

Only notifications may be repeated. For every other action the store never holds two successes of
one rule on one campaign, whoever calls it and in whatever order. The guard is the check that
recording makes before it appends: a success is appended only where none is stored. Nothing else
appends logs, changing a rule does not touch the logs it has, and deleting one only removes logs.
-/

namespace AdRules.Memory

/-- No action that may not be repeated has succeeded twice for a rule and a campaign. -/
def AtMostOnce (store : Store) : Prop :=
  ∀ ruleId campaignId action, action.isRepeatable = false →
    (store.successes ruleId campaignId action).length ≤ 1

/-- A success of an action that may not be repeated is one that is checked before it is recorded. -/
theorem once_of_success {log : ActionLog} {ruleId campaignId : String} {action : Action}
    (success : log.isSuccessOf ruleId campaignId action = true)
    (unrepeatable : action.isRepeatable = false) :
    Store.isOnce log = true ∧ log.ruleId = ruleId ∧ log.campaignId = campaignId ∧
      log.action = action := by
  simp only [ActionLog.isSuccessOf, Bool.and_eq_true, beq_iff_eq] at success
  obtain ⟨⟨⟨sameRule, sameCampaign⟩, sameAction⟩, succeeded⟩ := success
  refine ⟨?_, sameRule, sameCampaign, sameAction⟩
  simp [Store.isOnce, sameAction, unrepeatable, succeeded]

section Histories

variable [IdSupply]

/-- Every step keeps the successes unique. Only recording adds a log: one that is a success of the
action was checked against the stored ones, and any other does not count. -/
theorem at_most_once_step {memory after : Memory} {reply : Reply} (step : Step memory reply after)
    (unique : AtMostOnce memory.store) : AtMostOnce after.store := by
  intro ruleId campaignId action unrepeatable
  have before := unique ruleId campaignId action unrepeatable
  obtain ⟨call, effect⟩ := step
  cases effect with
  | kept counted issued more shown => exact before
  | measured snapshot =>
    obtain ⟨_, sameLogs, _⟩ :=
      Store.upsert_frame memory.store memory.now memory.issued snapshot
    simpa [keep, Store.successes, sameLogs] using before
  | created draft owner => exact before
  | changed rule change found => exact before
  | deleted id =>
    have fewer := List.length_filter_le (·.ruleId != id)
      (memory.store.successes ruleId campaignId action)
    have swapped : (Store.successes { memory.store with
          rules := memory.store.rules.filter (·.id != id)
          logs := memory.store.logs.filter (·.ruleId != id) } ruleId campaignId action) =
        (memory.store.successes ruleId campaignId action).filter (·.ruleId != id) := by
      simp only [Store.successes, List.filter_filter, Bool.and_comm]
    simp only [keep, swapped]
    omega
  | recorded rule log issued more found first =>
    have split : (memory.store.append memory.now rule log).successes ruleId campaignId action =
        memory.store.successes ruleId campaignId action ++
          [log].filter (·.isSuccessOf ruleId campaignId action) := by
      simp [Store.successes]
    by_cases success : log.isSuccessOf ruleId campaignId action = true
    · obtain ⟨once, rfl, rfl, rfl⟩ := once_of_success success unrepeatable
      have none : memory.store.successes log.ruleId log.campaignId log.action = [] := by
        have absent := first once
        simpa [Store.succeeded, Store.successes] using absent
      simp [keep, split, none, success]
    · simpa [keep, split, success] using before

/-- In every history, however many passes, synchronisations, manual runs and other callers it
interleaves, an action that may not be repeated has succeeded at most once for a rule and a
campaign. Logs may be recorded by anyone, with any identifier, status, campaign and times. -/
theorem succeeds_at_most_once (history : List Event) (ruleId campaignId : String)
    (action : Action) (unrepeatable : action.isRepeatable = false) :
    ((run history).store.successes ruleId campaignId action).length ≤ 1 := by
  have unique : AtMostOnce (run history).store := by
    refine run_induction (motive := fun _ memory => AtMostOnce memory.store) ?_ ?_ history
    · intro ruleId campaignId action _
      simp [start, Store.empty, Store.successes]
    · intro _ memory moment reply after unique step
      exact at_most_once_step step unique
  exact unique ruleId campaignId action unrepeatable

end Histories

/-- After the sample the first rule has paused the campaign at most once. -/
theorem sample_succeeds_once :
    Action.pauseCampaign.isRepeatable = false ∧
      ((run sample).store.successes (freshId 0) "summer" .pauseCampaign).length ≤ 1 :=
  ⟨rfl, succeeds_at_most_once sample (freshId 0) "summer" .pauseCampaign rfl⟩

example : ((run sample).store.successes (freshId 0) "summer" .pauseCampaign).length = 1 := by
  decide +kernel

end AdRules.Memory

import AdRules.Evaluation.Sketch
import AdRules.Repository

/-!
# Executing rules

A pass takes the active rules one after the other and executes the action of each that is triggered.
Executing an action means recording it; actions that are not repeatable are recorded at most once
for a rule and a campaign. What goes wrong with one rule does not keep the others from their turn,
be it that its conditions cannot be evaluated or that its execution cannot be recorded. A campaign
is meant to be named by a text; the lines of the log in which it is named are left out.
-/

namespace AdRules

namespace Executor

variable {σ : Type}

/-- A success of the rule's action on the campaign is already recorded, where that matters. -/
def alreadyExecuted (repository : Repository σ) (rule : Rule) (campaignId : Value) : Act σ Bool :=
  if rule.action.isRepeatable then pure false
  else do
    let log ← repository.findLog (.text rule.id) campaignId (Vocabulary.toValue rule.action)
      (Vocabulary.toValue Status.success)
    pure log.isSome

/-- The log of a rule's execution, checked before it is recorded. A campaign that is no text is
    found out here. -/
def logOf (rule : Rule) (metrics : Metrics) (campaignId : Value) (now : Timestamp) :
    Checked ActionLog :=
  (fun campaignId =>
    { id := none
      ruleId := rule.id
      campaignId := campaignId
      action := rule.action
      actionValue := (rule.actionValue.filter (!·.isEmpty)).getD defaultActionValue
      status := .success
      metrics := metrics
      triggeredAt := now
      completedAt := some now
      ruleName := none
      campaignName := none }) <$> (Check.text campaignId).under (.field "campaign_id")

/-- Executes the action of a rule; nothing is recorded when that has been done before. -/
def execute (repository : Repository σ) (clock : Act σ Timestamp) (rule : Rule)
    (metrics : Metrics) (campaignId : Value) : Act σ (Option ActionLog) := do
  if ← alreadyExecuted repository rule campaignId then pure none
  else
    let now ← clock
    repository.record (← Act.ofChecked "ActionLog" (logOf rule metrics campaignId now))

/-- One rule's turn in a pass: it is evaluated, and executed if it is triggered. -/
def turn (repository : Repository σ) (clock : Act σ Timestamp) (metrics : Metrics)
    (campaignId : Value) (rule : Rule) : Act σ (Option ActionLog) := do
  if ← Act.ofExcept (rule.evaluate metrics) then
    execute repository clock rule metrics campaignId
  else pure none

/-- The turns of some rules; the logs they record, in order. -/
def turns (repository : Repository σ) (clock : Act σ Timestamp) (metrics : Metrics)
    (campaignId : Value) : List Rule → Act σ (List ActionLog)
  | [] => pure []
  | rule :: rest => do
    let outcome ← (turn repository clock metrics campaignId rule).outcome
    let logs ← turns repository clock metrics campaignId rest
    match outcome with
    | .ok (some log) => pure (log :: logs)
    | _ => pure logs

/-- A pass over all active rules, which are listed once at its beginning. The logs come in the order
    of the rules. -/
def pass (repository : Repository σ) (clock : Act σ Timestamp) (metrics : Metrics)
    (campaignId : Value) : Act σ (List ActionLog) := do
  turns repository clock metrics campaignId (← repository.activeRules)

end Executor

end AdRules

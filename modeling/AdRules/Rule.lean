import AdRules.Condition
import AdRules.Text.Blank

/-!
# Rules

A rule watches the metrics through groups of conditions and names the action to take. Drafts create
rules, changes replace some of their fields, and the stored rule counts how often it was triggered.
-/

namespace AdRules

/-- What a triggered rule does. Nothing is done outside the library: executing an action means
    recording it. -/
inductive Action where
  | pauseCampaign
  | increaseBudget
  | decreaseBudget
  | sendNotification
  deriving DecidableEq

/-- The words of the actions, in the order in which a choice among them is worded. -/
instance : Vocabulary Action where
  members := [.pauseCampaign, .increaseBudget, .decreaseBudget, .sendNotification]
  word
    | .pauseCampaign => "pause_campaign"
    | .increaseBudget => "increase_budget"
    | .decreaseBudget => "decrease_budget"
    | .sendNotification => "send_notification"

namespace Action

/-- Only notifications may be repeated; every other action succeeds at most once for a rule and a
    campaign. -/
def isRepeatable : Action → Bool
  | .sendNotification => true
  | _ => false

/-- How an action is called in a list of choices. -/
def label : Action → String
  | .pauseCampaign => "Pause Campaign"
  | .increaseBudget => "Increase Budget"
  | .decreaseBudget => "Decrease Budget"
  | .sendNotification => "Send Notification"

/-- The entry of an action in a list of choices. -/
def entry (action : Action) : Value :=
  .record [("value", Vocabulary.toValue action), ("label", .text action.label)]

end Action

/-- The most characters of a rule's name, blanks at its ends included. -/
def nameLimit : Nat := 200

/-- A rule's name: neither empty nor blank nor too long, kept without the blanks at its ends. -/
def checkName (input : Value) : Checked String :=
  (Check.nonEmptyText input).andThen fun name =>
    if nameLimit < name.length then Checked.fault (.textTooLong nameLimit) input
    else
      let stripped := Text.strip name
      if stripped.isEmpty then Checked.fault (.rule "Rule name is required") input
      else .valid stripped

/-- A rule as a caller hands it in, without what the store gives it: identifier, moments and counts.
    -/
structure RuleDraft where
  name : String
  description : Option String
  action : Action
  actionValue : Option String
  isActive : Bool
  groups : List GroupDraft
  deriving DecidableEq

namespace RuleDraft

/-- Checks the fields; there is at least one group. -/
def ofFields (setting : Setting) (fields : Fields) : Checked RuleDraft :=
  RuleDraft.mk
    <$> Checked.required fields "name" checkName
    <*> Checked.optional fields "description" none (Checked.nullable Check.text)
    <*> Checked.required fields "action" Check.choice
    <*> Checked.optional fields "action_value" none (Checked.nullable Check.text)
    <*> Checked.optional fields "is_active" true Check.bool
    <*> Checked.required fields "condition_groups" (Checked.someItems (GroupDraft.check setting))

/-- Checks a draft. -/
def check (setting : Setting) : Value → Checked RuleDraft :=
  Check.model setting "RuleCreate" (ofFields setting)

/-- The record of a draft. -/
def toValue (draft : RuleDraft) : Value :=
  .record
    [("name", .text draft.name), ("description", .ofText? draft.description),
     ("action", Vocabulary.toValue draft.action), ("action_value", .ofText? draft.actionValue),
     ("is_active", .bool draft.isActive),
     ("condition_groups", .list (draft.groups.map GroupDraft.toValue))]

end RuleDraft

/-- New values for some fields of a rule; groups are replaced as a whole. -/
structure RuleChange where
  name : Option String
  description : Option String
  action : Option Action
  actionValue : Option String
  isActive : Option Bool
  groups : Option (List GroupDraft)
  deriving DecidableEq

namespace RuleChange

/-- The fields that a change may name. A change that names another one is refused. -/
def fieldNames : List String :=
  ["name", "description", "action", "action_value", "is_active", "condition_groups"]

/-- Checks the fields; null counts as not given and other fields are refused. -/
def ofFields (setting : Setting) (fields : Fields) : Checked RuleChange :=
  (fun name description action actionValue isActive groups _ =>
      RuleChange.mk name description action actionValue isActive groups)
    <$> Checked.optional fields "name" none (Checked.nullable checkName)
    <*> Checked.optional fields "description" none (Checked.nullable Check.text)
    <*> Checked.optional fields "action" none (Checked.nullable Check.choice)
    <*> Checked.optional fields "action_value" none (Checked.nullable Check.text)
    <*> Checked.optional fields "is_active" none (Checked.nullable Check.bool)
    <*> Checked.optional fields "condition_groups" none
      (Checked.nullable (Checked.someItems (GroupDraft.check setting)))
    <*> Checked.onlyFields fieldNames fields

/-- Checks a change. -/
def check (setting : Setting) : Value → Checked RuleChange :=
  Check.model setting "RuleUpdate" (ofFields setting)

/-- The record of a change. -/
def toValue (change : RuleChange) : Value :=
  .record
    [("name", .ofText? change.name), ("description", .ofText? change.description),
     ("action", (change.action.map Vocabulary.toValue).getD .null),
     ("action_value", .ofText? change.actionValue),
     ("is_active", (change.isActive.map Value.bool).getD .null),
     ("condition_groups",
       (change.groups.map fun groups => Value.list (groups.map GroupDraft.toValue)).getD .null)]

end RuleChange

/-- A stored rule, with its groups in order. The number of its logs is filled in when it is shown.
    -/
structure Rule where
  name : String
  description : Option String
  action : Action
  actionValue : Option String
  id : String
  isActive : Bool
  triggerCount : Nat
  lastTriggered : Option Timestamp
  createdBy : Option String
  createdAt : Option Timestamp
  updatedAt : Option Timestamp
  groups : List ConditionGroup
  /-- How many logs the rule has, where that was asked for. -/
  logCount : Option Int

namespace Rule

/-- Checks the fields of a rule, given how its groups are checked. -/
def ofFieldsWith (groups : Value → Checked (List ConditionGroup)) (fields : Fields) :
    Checked Rule :=
  Rule.mk
    <$> Checked.required fields "name" checkName
    <*> Checked.optional fields "description" none (Checked.nullable Check.text)
    <*> Checked.required fields "action" Check.choice
    <*> Checked.optional fields "action_value" none (Checked.nullable Check.text)
    <*> Checked.required fields "id" Check.text
    <*> Checked.optional fields "is_active" true Check.bool
    <*> Checked.optional fields "trigger_count" 0 Check.count
    <*> Checked.optional fields "last_triggered" none (Checked.nullable Check.time)
    <*> Checked.optional fields "created_by" none (Checked.nullable Check.text)
    <*> Checked.optional fields "created_at" none (Checked.nullable Check.time)
    <*> Checked.optional fields "updated_at" none (Checked.nullable Check.time)
    <*> Checked.optional fields "condition_groups" [] groups
    <*> Checked.optional fields "action_log_count" none (Checked.nullable Check.int)

/-- Checks the fields of a rule, its groups included. -/
def ofFields (setting : Setting) : Fields → Checked Rule :=
  ofFieldsWith (Checked.items (ConditionGroup.check setting))

/-- Checks a rule that is given as a record. -/
def check (setting : Setting) : Value → Checked Rule :=
  Check.model setting "AutomationRule" (ofFields setting)

/-- The fields of a rule's record. -/
def toFields (rule : Rule) : Fields :=
  [("name", .text rule.name), ("description", .ofText? rule.description),
   ("action", Vocabulary.toValue rule.action), ("action_value", .ofText? rule.actionValue),
   ("id", .text rule.id), ("is_active", .bool rule.isActive),
   ("trigger_count", .int rule.triggerCount), ("last_triggered", .ofTime? rule.lastTriggered),
   ("created_by", .ofText? rule.createdBy), ("created_at", .ofTime? rule.createdAt),
   ("updated_at", .ofTime? rule.updatedAt),
   ("condition_groups", .list (rule.groups.map ConditionGroup.toValue)),
   ("action_log_count", .ofInt? rule.logCount)]

/-- The record of a rule. -/
def toValue (rule : Rule) : Value := .record rule.toFields

end Rule

end AdRules

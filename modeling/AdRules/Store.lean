import AdRules.Campaign
import AdRules.Failure
import AdRules.Identifier

/-!
# The store in memory

Snapshots, rules and logs in the order in which they first arrived. Every operation is a function
from one store to the next; the moment it happens at and the number of identifiers issued so far are
arguments, and an operation that issues identifiers returns the new number.
-/

namespace AdRules

/-- Everything that is stored. Snapshots, rules and logs are lists in the order in which they came
    to be stored. -/
structure Store where
  campaigns : List Snapshot
  rules : List Rule
  logs : List ActionLog

/-- How many entries of a list are wanted: all, or those before a position, counted from the end
    when it is negative. -/
inductive Limit where
  | all
  | before (position : Int)
  deriving DecidableEq

/-- The entries within a limit. A negative limit drops as many entries from the end. -/
def Limit.take {α : Type} (limit : Limit) (entries : List α) : List α :=
  match limit with
  | .all => entries
  | .before position =>
    if position < 0 then entries.take (entries.length - position.natAbs)
    else entries.take position.toNat

/-! ## Building a rule from its draft -/

/-- The conditions of a group, numbered from `order`; identifiers are issued in the same order. -/
def Condition.ofDrafts [IdSupply] (groupId : String) :
    Nat → Nat → List ConditionDraft → List Condition
  | _, _, [] => []
  | order, issued, draft :: rest =>
    ⟨.text (freshId issued), .text groupId, .known draft.metric, .known draft.comparison,
      .float draft.threshold, .int order⟩ :: ofDrafts groupId (order + 1) (issued + 1) rest

/-- The groups of a rule, numbered from `order`; each group's identifier is issued before those of
    its conditions. -/
def ConditionGroup.ofDrafts [IdSupply] (ruleId : String) :
    Nat → Nat → List GroupDraft → List ConditionGroup
  | _, _, [] => []
  | order, issued, draft :: rest =>
    ⟨some (freshId issued), some ruleId, .known draft.junction, order,
      Condition.ofDrafts (freshId issued) 0 (issued + 1) draft.conditions⟩ ::
      ofDrafts ruleId (order + 1) (issued + 1 + draft.conditions.length) rest

/-- How many identifiers some groups and their conditions take: one for each of them. -/
def GroupDraft.idCount : List GroupDraft → Nat
  | [] => 0
  | group :: rest => 1 + group.conditions.length + idCount rest

/-- A new rule, never triggered, created and changed last at one moment. Its own identifier is
    issued before those of its groups. -/
def Rule.ofDraft [IdSupply] (now : Timestamp) (issued : Nat) (draft : RuleDraft)
    (owner : Option String) : Rule :=
  ⟨draft.name, draft.description, draft.action, draft.actionValue, freshId issued, draft.isActive,
    0, none, owner, some now, some now,
    ConditionGroup.ofDrafts (freshId issued) 0 (issued + 1) draft.groups, none⟩

/-- A rule with the given fields of a change and the moment of the change. -/
def RuleChange.apply [IdSupply] (change : RuleChange) (now : Timestamp) (issued : Nat)
    (rule : Rule) : Rule :=
  { rule with
    name := change.name.getD rule.name
    description := change.description <|> rule.description
    action := change.action.getD rule.action
    actionValue := change.actionValue <|> rule.actionValue
    isActive := change.isActive.getD rule.isActive
    groups := match change.groups with
      | some groups => ConditionGroup.ofDrafts rule.id 0 issued groups
      | none => rule.groups
    updatedAt := some now }

/-- How many identifiers a change takes. -/
def RuleChange.idCount (change : RuleChange) : Nat :=
  match change.groups with
  | some groups => GroupDraft.idCount groups
  | none => 0

/-- A rule that was triggered once more, at a moment of its own; it was changed at the moment of
    recording. -/
def Rule.triggered (rule : Rule) (at' now : Timestamp) : Rule :=
  { rule with
    triggerCount := rule.triggerCount + 1
    lastTriggered := some at'
    updatedAt := some now }

/-- An identifier that is neither missing nor empty. -/
def givenId? (id : Option String) : Option String := id.filter (!·.isEmpty)

/-! ## Order in time -/

/-- All timestamps have an offset, or none has. Only then can they be put in order. -/
def Timestamp.uniform (times : List Timestamp) : Bool :=
  times.all (·.isAware) || times.all (!·.isAware)

/-- The later of two entries; of two at the same time the first. -/
def laterOf {α : Type} (time : α → Timestamp) (first second : α) : α :=
  if (time first).instant < (time second).instant then second else first

/-- The latest entry, of several the first, when all can be put in order. -/
def latest? {α : Type} (time : α → Timestamp) (entries : List α) : Except Failure (Option α) :=
  match entries with
  | [] => .ok none
  | first :: rest =>
    if Timestamp.uniform ((first :: rest).map time) then
      .ok (some (rest.foldl (laterOf time) first))
    else .error .mixedTimes

namespace Store

/-- Nothing stored. -/
def empty : Store := ⟨[], [], []⟩

/-! ## Looking up -/

/-- The snapshot of a campaign. -/
def campaign? (store : Store) (campaignId : String) : Option Snapshot :=
  store.campaigns.find? (·.campaignId == campaignId)

/-- The rule under an identifier. -/
def rule? (store : Store) (id : String) : Option Rule := store.rules.find? (·.id == id)

/-- The logs of a rule in the order of recording. -/
def logsOf (store : Store) (ruleId : String) : List ActionLog :=
  store.logs.filter (·.ruleId == ruleId)

/-- A log with the present names of its rule and campaign. -/
def decorate (store : Store) (log : ActionLog) : ActionLog :=
  { log with
    ruleName := (store.rule? log.ruleId).map (·.name)
    campaignName := (store.campaign? log.campaignId).map (·.name) }

/-- A rule with the number of its logs. -/
def withCount (store : Store) (rule : Rule) : Rule :=
  { rule with logCount := some (store.logsOf rule.id).length }

/-! ## Snapshots -/

/-- Puts a snapshot in the place of the one of the same campaign, or at the end. -/
def putCampaign (store : Store) (snapshot : Snapshot) : Store :=
  if (store.campaign? snapshot.campaignId).isSome then
    { store with
      campaigns := store.campaigns.map fun stored =>
        if stored.campaignId == snapshot.campaignId then snapshot else stored }
  else { store with campaigns := store.campaigns ++ [snapshot] }

/-- Stores a reading. A campaign keeps the identifier and the moment of its first reading; a new one
    takes the identifier it comes with, or is issued one. -/
def upsert [IdSupply] (now : Timestamp) (issued : Nat) (snapshot : Snapshot) (store : Store) :
    Snapshot × Store × Nat :=
  match store.campaign? snapshot.campaignId with
  | some existing =>
    let stored :=
      { snapshot with id := existing.id, createdAt := existing.createdAt, updatedAt := some now }
    (stored, store.putCampaign stored, issued)
  | none =>
    let stored :=
      { snapshot with
        id := some ((givenId? snapshot.id).getD (freshId issued))
        createdAt := some now
        updatedAt := some now }
    (stored, store.putCampaign stored,
      if (givenId? snapshot.id).isSome then issued else issued + 1)

/-- The snapshot with the latest time of synchronisation; of several the one stored first. -/
def latestCampaign (store : Store) : Except Failure (Option Snapshot) :=
  latest? (·.syncedAt) store.campaigns

/-! ## Logs -/

/-- All logs, the newest first. Logs of one time come in the opposite order of recording. -/
def newestLogs (store : Store) : Except Failure (List ActionLog) :=
  if Timestamp.uniform (store.logs.map (·.triggeredAt)) then
    .ok ((store.logs.reverse.mergeSort fun first second =>
      decide (second.triggeredAt.instant ≤ first.triggeredAt.instant)).map store.decorate)
  else .error .mixedTimes

/-- The newest logs of a kind, with the present names of their rules and campaigns. It fails where
    their moments cannot be put in order. -/
def logsWhere (store : Store) (keep : ActionLog → Bool) (limit : Limit) :
    Except Failure (List ActionLog) :=
  store.newestLogs.map fun logs => limit.take (logs.filter keep)

/-- The newest log of a rule, campaign, action and status. -/
def findLog (store : Store) (ruleId campaignId : String) (action : Action) (status : Status) :
    Except Failure (Option ActionLog) :=
  store.newestLogs.map fun logs => logs.find? fun log =>
    log.ruleId == ruleId && log.campaignId == campaignId && log.action == action &&
      log.status == status

/-- The latest snapshot with the newest logs of its campaign. -/
def latestCampaignWithLogs (store : Store) (limit : Limit) :
    Except Failure (Option SnapshotWithLogs) := do
  match ← store.latestCampaign with
  | none => pure none
  | some snapshot =>
    let logs ← store.logsWhere (·.campaignId == snapshot.campaignId) limit
    pure (some ⟨snapshot, logs⟩)

/-! ## Rules -/

/-- Stores a new rule. -/
def createRule [IdSupply] (now : Timestamp) (issued : Nat) (draft : RuleDraft)
    (owner : Option String) (store : Store) : Rule × Store × Nat :=
  let rule := Rule.ofDraft now issued draft owner
  let store := { store with rules := store.rules ++ [rule] }
  (store.withCount rule, store, issued + 1 + GroupDraft.idCount draft.groups)

/-- A rule with its newest logs, up to a limit, and with the number of all its logs. -/
def ruleWithLogs (store : Store) (id : String) (limit : Limit) :
    Except Failure (Option RuleWithLogs) :=
  match store.rule? id with
  | none => .ok none
  | some rule =>
    (store.logsWhere (·.ruleId == id) limit).map fun logs => some ⟨store.withCount rule, logs⟩

/-- The moment a rule was created. -/
def creation (rule : Rule) : Int := (rule.createdAt.map Timestamp.instant).getD 0

/-- Rules in an order of their creation, when all moments of creation can be put in order. -/
def sortedRules (before : Int → Int → Bool) (rules : List Rule) : Except Failure (List Rule) :=
  if Timestamp.uniform (rules.filterMap (·.createdAt)) then
    .ok (rules.mergeSort fun first second => before (creation first) (creation second))
  else .error .mixedTimes

/-- All rules, the newest first; rules of one moment in the order of their creation. -/
def newestRules (store : Store) : Except Failure (List Rule) :=
  (sortedRules (fun first second => decide (second ≤ first)) store.rules).map
    (·.map store.withCount)

/-- The active rules, the oldest first; rules of one moment in the order of their creation. -/
def activeRules (store : Store) : Except Failure (List Rule) :=
  sortedRules (fun first second => decide (first ≤ second)) (store.rules.filter (·.isActive))

/-- Puts a rule in the place of the one with the same identifier. -/
def putRule (store : Store) (rule : Rule) : Store :=
  { store with
    rules := store.rules.map fun stored => if stored.id == rule.id then rule else stored }

/-- Changes a stored rule. Fields that the change does not name stay as they are, and new groups
    take the place of all old ones. -/
def updateRule [IdSupply] (now : Timestamp) (issued : Nat) (id : String) (change : RuleChange)
    (store : Store) : Except Failure (Rule × Store × Nat) :=
  match store.rule? id with
  | none => .error (.ruleNotFound (.text id))
  | some rule =>
    let updated := change.apply now issued rule
    .ok (store.withCount updated, store.putRule updated, issued + change.idCount)

/-- Removes a rule with all its logs. A rule that is not stored is a failure. -/
def deleteRule (id : String) (store : Store) : Except Failure Store :=
  match store.rule? id with
  | none => .error (.ruleNotFound (.text id))
  | some _ =>
    .ok { store with
      rules := store.rules.filter (·.id != id)
      logs := store.logs.filter (·.ruleId != id) }

/-! ## Recording -/

/-- A log that may be recorded only once for its rule, campaign and action. -/
def isOnce (log : ActionLog) : Bool := !log.action.isRepeatable && log.status == .success

/-- The store already holds a success of the same rule, campaign and action. -/
def hasSuccess (store : Store) (log : ActionLog) : Except Failure Bool :=
  (store.findLog log.ruleId log.campaignId log.action .success).map Option.isSome

/-- Appends a log and counts it for its rule. Whether it may be recorded at all has been decided
    before. -/
def append (now : Timestamp) (rule : Rule) (log : ActionLog) (store : Store) : Store :=
  { store with logs := store.logs ++ [log] }.putRule (rule.triggered log.triggeredAt now)

/-- Records an execution, unless it is one that may be recorded only once and has been. -/
def record [IdSupply] (now : Timestamp) (issued : Nat) (log : ActionLog) (store : Store) :
    Except Failure (Option ActionLog × Store × Nat) := do
  match store.rule? log.ruleId with
  | none => throw (.ruleNotFound (.text log.ruleId))
  | some rule =>
    let isRepetition ← if isOnce log then store.hasSuccess log else pure false
    if isRepetition then pure (none, store, issued)
    else
      let stored := { log with id := some ((givenId? log.id).getD (freshId issued)) }
      let store := store.append now rule stored
      pure (some (store.decorate stored), store,
        if (givenId? log.id).isSome then issued else issued + 1)

end Store

end AdRules

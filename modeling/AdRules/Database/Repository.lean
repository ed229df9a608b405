import AdRules.Database.Connection
import AdRules.Database.Row

/-!
# The database as a repository

Every operation opens a connection of its own, and those that read back what they wrote open another
one for that. A new rule, a change of a rule and the record of an execution are transactions.
-/

namespace AdRules.Database

/-- What a check of rows depends on at this moment. -/
def setting : Act Link Setting := (fun link => ⟨link.now, false⟩) <$> get

/-- The snapshot in a row, checked once more as whatever is read. -/
def readSnapshot (row : Fields) : Act Link Snapshot := do
  Act.ofExcept (snapshotOfRow (← setting) row)

/-- How deeply a text in a row may be nested. -/
def depth : Act Link Nat := (fun link => link.server.depth) <$> get

/-- The logs in some rows, in their order. One row that holds no log makes all of them fail. -/
def readLogs (rows : List Fields) : Act Link (List ActionLog) := do
  let depth ← depth
  let setting ← setting
  Act.ofExcept (rows.mapM (logOfRow depth setting))

/-- A row that holds anything at all. An empty one counts as none. -/
def filled? (row : Option Fields) : Option Fields := row.filter (!·.isEmpty)

/-- Uses a connection to make the database ready: the statements of the schema are sent and
    committed. It may be done again at any time. -/
def prepare (address : String) : Act Link Unit := connected address do
  let _ ← execute .createSchema
  commit

/-- Opens a connection to see whether that can be done. -/
def probe (address : String) : Act Link Unit := do
  connect address
  close

/-! ## Snapshots -/

/-- The identifier of a snapshot, or a new one where it has none or an empty one. -/
def idOr [IdSupply] (id : Option String) : Act Link String :=
  match id with
  | some id => if id.isEmpty then issueId else pure id
  | none => issueId

/-- Stores a reading, which is final before the row is read back. -/
def upsertCampaign [IdSupply] (address : String) (snapshot : Snapshot) : Act Link Snapshot :=
  connected address do
    let id ← idOr snapshot.id
    let row ← firstRowOf (.upsertCampaign id snapshot)
    commit
    match row with
    | some row => readSnapshot row
    | none => throw .noRow

/-- The most recent snapshot, by the moment at which it was read. -/
def latestCampaign (address : String) : Act Link (Option Snapshot) := connected address do
  match filled? (← firstRowOf .selectLatestCampaign) with
  | some row => some <$> readSnapshot row
  | none => pure none

/-- The most recent snapshot with some of its newest logs. -/
def latestCampaignWithLogs (address : String) (limit : Value) :
    Act Link (Option SnapshotWithLogs) := do
  match ← latestCampaign address with
  | none => pure none
  | some snapshot =>
    let logs ← connected address do
      readLogs (← rowsOf (.selectLogsOfCampaign snapshot.campaignId limit))
    pure (some ⟨snapshot, logs⟩)

/-! ## Rules -/

/-- The groups of some rules, each under the identifier of its rule. -/
def groupsOf (ruleIds : List Value) : Act Link (List (Value × ConditionGroup)) := do
  if ruleIds.isEmpty then pure []
  else
    let groups ← rowsOf (.selectGroups ruleIds)
    let groupIds ← Act.ofExcept (groups.mapM (column · "id"))
    let conditions ← if groupIds.isEmpty then pure [] else rowsOf (.selectConditions groupIds)
    let conditions ← Act.ofExcept (conditions.mapM conditionOfRow)
    Act.ofExcept (groups.mapM (groupOfRow conditions))

/-- The rules that a query gives, with their groups and conditions, over one connection. -/
def rulesOf (address : String) (query : Statement) : Act Link (List Rule) := do
  let (rows, groups) ← connected address do
    let rows ← rowsOf query
    let groups ← groupsOf (← Act.ofExcept (rows.mapM (column · "id")))
    pure (rows, groups)
  Act.ofExcept (rulesOfRows groups rows)

/-- The rule under an identifier, if there is a row of it. A row that makes no rule is a failure
    here. -/
def loadRule (address : String) (id : Value) : Act Link (Option Rule) := do
  let found ← connected address do
    match filled? (← firstRowOf (.selectRule id)) with
    | none => pure none
    | some row => pure (some (row, ← groupsOf [id]))
  match found with
  | none => pure none
  | some (row, groups) =>
    Act.ofExcept (nameable id)
    some <$> Act.ofExcept (ruleOfRow (entriesUnder id groups) row)

/-- Inserts conditions of a group, numbered from `order`, each under a new identifier. -/
def insertConditions [IdSupply] (groupId : String) : Nat → List ConditionDraft → Act Link Unit
  | _, [] => pure ()
  | order, draft :: rest => do
    let id ← issueId
    let _ ← execute (.insertCondition id groupId draft order)
    insertConditions groupId (order + 1) rest

/-- Inserts groups of a rule with their conditions, numbered from `order`. -/
def insertGroups [IdSupply] (ruleId : Value) : Nat → List GroupDraft → Act Link Unit
  | _, [] => pure ()
  | order, draft :: rest => do
    let id ← issueId
    let _ ← execute (.insertGroup id ruleId draft.junction order)
    insertConditions id 0 draft.conditions
    insertGroups ruleId (order + 1) rest

/-- Stores a new rule in one transaction and reads it back over another connection, which may fail
    although the rule is stored. -/
def createRule [IdSupply] (address : String) (draft : RuleDraft) (owner : Value) :
    Act Link (Option Rule) := do
  let id ← issueId
  let _ ← transaction address do
    let _ ← execute (.insertRule id draft owner)
    insertGroups (.text id) 0 draft.groups
    pure (some ())
  loadRule address (.text id)

/-- Puts new groups in the place of those of a rule. -/
def replaceGroups [IdSupply] (ruleId : Value) (groups : List GroupDraft) : Act Link Unit := do
  let _ ← execute (.deleteGroups ruleId)
  insertGroups ruleId 0 groups

/-- Changes a rule in one transaction and reads it back over another connection. Where no row was
    changed, nothing is read back. -/
def updateRule [IdSupply] (address : String) (id : Value) (change : RuleChange) :
    Act Link (Option Rule) := do
  let changed ← transaction address do
    match ← firstRowOf (.updateRule id change) with
    | none => pure none
    | some _ =>
      match change.groups with
      | some groups => replaceGroups id groups
      | none => pure ()
      pure (some ())
  match changed with
  | none => throw (.notFound id)
  | some () => loadRule address id

/-- Removes a rule; what belongs to it goes with it. -/
def deleteRule (address : String) (id : Value) : Act Link Unit := do
  let reply ← connected address do
    let reply ← execute (.deleteRule id)
    commit
    pure reply
  if reply.count = 0 then throw (.notFound id)

/-- A rule with some of its newest logs. Without the rule no logs are asked for. -/
def ruleWithLogs (address : String) (id limit : Value) : Act Link (Option RuleWithLogs) := do
  match ← loadRule address id with
  | none => pure none
  | some rule =>
    let logs ← connected address do
      readLogs (← rowsOf (.selectLogsOfRule id limit))
    pure (some ⟨rule, logs⟩)

/-! ## Logs -/

/-- A member of a vocabulary, or the refusal of its word. -/
def member {α : Type} [Vocabulary α] (vocabulary : String) (value : Value) : Except Failure α :=
  match Vocabulary.ofValue? value with
  | some member => .ok member
  | none => .error (.unknownWord vocabulary value)

/-- The newest log of a rule, campaign, action and status. -/
def findLog (address : String) (ruleId campaignId action status : Value) :
    Act Link (Option ActionLog) := connected address do
  let action ← Act.ofExcept (member "ActionType" action)
  let status ← Act.ofExcept (member "ActionStatus" status)
  match filled? (← firstRowOf (.findLog ruleId campaignId action status)) with
  | some row => List.head? <$> readLogs [row]
  | none => pure none

/-- Some of the newest logs, of one rule or of all. -/
def logs (address : String) (ruleId limit : Value) : Act Link (List ActionLog) :=
  connected address do readLogs (← rowsOf (.selectLogs ruleId limit))

/-- Records an execution and counts it for its rule, unless the database drops the log. -/
def record [IdSupply] (address : String) (log : ActionLog) : Act Link (Option ActionLog) := do
  let id ← idOr log.id
  let row ← transaction address do
    match ← firstRowOf (.insertLog id log) with
    | none => pure none
    | some row =>
      let _ ← execute (.countTrigger log)
      pure (some row)
  match row with
  | none => pure none
  | some row => List.head? <$> readLogs [row]

/-- The repository kept in the database at an address. Every operation asks the server anew; nothing
    is kept in between. -/
def repository [IdSupply] (address : String) : AdRules.Repository Link where
  upsertCampaign := upsertCampaign address
  latestCampaign := latestCampaign address
  latestCampaignWithLogs := latestCampaignWithLogs address
  createRule := createRule address
  rule := ruleWithLogs address
  rules := rulesOf address .selectRules
  updateRule := updateRule address
  deleteRule := deleteRule address
  activeRules := rulesOf address .selectActiveRules
  findLog := findLog address
  logs := logs address
  record := record address
  prepare := prepare address

end AdRules.Database

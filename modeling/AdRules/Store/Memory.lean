import AdRules.Repository
import AdRules.Store

/-!
# The store in memory as a repository

The store together with the clock and the count of issued identifiers. Identifiers that are no texts
are never found; lists and records cannot be looked up at all.
-/

namespace AdRules

/-- A store, the moment at which it is used, and how many identifiers it has issued. -/
structure Memory where
  now : Timestamp
  issued : Nat
  store : Store

namespace Memory

variable {α : Type}

/-- A query that leaves the store as it is, also when it fails. -/
def query (ask : Store → Except Failure α) : Act Memory α := fun memory =>
  match ask memory.store with
  | .ok value => .ok value memory
  | .error failure => .error failure memory

/-- A change of the store and of the count of identifiers. A failed change changes nothing. -/
def change (apply : Timestamp → Nat → Store → Except Failure (α × Store × Nat)) : Act Memory α :=
  fun memory =>
    match apply memory.now memory.issued memory.store with
    | .ok (value, store, issued) => .ok value { memory with store := store, issued := issued }
    | .error failure => .error failure memory

/-- A limit as a caller gives it: null is none, and true and false are one and zero. -/
def limit? : Value → Option Limit
  | .null => some .all
  | .int position => some (.before position)
  | .bool flag => some (.before (if flag then 1 else 0))
  | _ => none

/-- A query within a limit. A limit of the wrong shape is only noticed when there is something to
    limit. -/
def limited (limit : Value) (applies : α → Bool) (ask : Limit → Store → Except Failure α) :
    Act Memory α :=
  match limit? limit with
  | some limit => query (ask limit)
  | none => query fun store => do
    let value ← ask .all store
    if applies value then throw .badLimit else pure value

/-- An answer that is checked once more before it is given. -/
def rechecked (model : String) (recheck : α → Checked α) (asked : Act Memory (Option α)) :
    Act Memory (Option α) := do
  match ← asked with
  | none => pure none
  | some shown => some <$> Act.ofChecked model (recheck shown)

/-- An identifier as a caller gives it; none is one under which nothing is stored. -/
def id? : Value → Except Failure (Option String)
  | .text id => .ok (some id)
  | .list _ => .error (.unhashable "list")
  | .record _ => .error (.unhashable "dict")
  | _ => .ok none

/-- An operation on the rule under an identifier. No rule is stored under what is no text, and what
    cannot be looked up is a failure. -/
def withId (id : Value) (missing : Except Failure α) (found : String → Except Failure α) :
    Except Failure α := do
  match ← id? id with
  | some id => found id
  | none => missing

/-- The owner of a new rule: a text or nothing. Anything else makes the rule unsound. -/
def owner (owner : Value) : Except Failure (Option String) :=
  match (Checked.nullable Check.text owner).under (.field "created_by") with
  | .valid owner => .ok owner
  | .invalid issues => .error (.invalid "AutomationRule" issues)

/-- Stores a new rule. Identifiers are issued before the owner is looked at. -/
def createRule [IdSupply] (draft : RuleDraft) (givenOwner : Value) :
    Act Memory (Option Rule) := fun memory =>
  match owner givenOwner with
  | .ok owner =>
    let (rule, store, issued) := memory.store.createRule memory.now memory.issued draft owner
    .ok (some rule) { memory with store := store, issued := issued }
  | .error failure =>
    .error failure { memory with issued := memory.issued + 1 + GroupDraft.idCount draft.groups }

/-- Removes a rule. Where there are none nothing is looked up, so that the shape of the identifier
    does not matter then. -/
def deleteRule (id : Value) (issued : Nat) (store : Store) : Except Failure (Unit × Store × Nat) :=
  if store.rules.isEmpty then .error (.notFound id)
  else
    withId id (.error (.notFound id)) fun id =>
      (store.deleteRule id).map fun store => ((), store, issued)

/-- The newest log that matches the given values. -/
def findLog (ruleId campaignId action status : Value) (store : Store) :
    Except Failure (Option ActionLog) :=
  store.newestLogs.map fun logs => logs.find? fun log =>
    ruleId.sameName (.text log.ruleId) && campaignId.sameName (.text log.campaignId) &&
      action.sameName (Vocabulary.toValue log.action) &&
      status.sameName (Vocabulary.toValue log.status)

/-- A log belongs to the rule that is asked for; without a rule every log does. -/
def ofRule (ruleId : Value) (log : ActionLog) : Bool :=
  ruleId.isEmpty || ruleId.sameName (.text log.ruleId)

/-- The repository kept in memory. There is nothing to be prepared, and no operation fails for want
    of a connection. -/
def repository [IdSupply] : Repository Memory where
  upsertCampaign snapshot := change fun now issued store =>
    .ok (store.upsert now issued snapshot)
  latestCampaign := query Store.latestCampaign
  latestCampaignWithLogs limit := rechecked "CampaignWithActions" SnapshotWithLogs.recheck <|
    limited limit Option.isSome fun limit store => store.latestCampaignWithLogs limit
  createRule := createRule
  rule id limit := rechecked "RuleWithLogs" RuleWithLogs.recheck <|
    limited limit Option.isSome fun limit store =>
      withId id (.ok none) fun id => store.ruleWithLogs id limit
  rules := query Store.newestRules
  updateRule id update := change fun now issued store =>
    withId id (.error (.notFound id)) fun id =>
      (store.updateRule now issued id update).map fun (rule, rest) => (some rule, rest)
  deleteRule id := change fun _ => deleteRule id
  activeRules := query Store.activeRules
  findLog ruleId campaignId action status := query (findLog ruleId campaignId action status)
  logs ruleId limit := limited limit (fun _ => true) fun limit store =>
    store.logsWhere (ofRule ruleId) limit
  record log := change fun now issued store => store.record now issued log
  prepare := pure ()

end Memory

end AdRules

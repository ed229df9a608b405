import AdRules.Proofs.Histories
import AdRules.Proofs.Tables

/-!
# The constraints on logs

The schema says which columns of the table of logs may not be empty, which refer to rules and which
no two rows may share; an index adds that a success of an action that is not repeatable is stored
once. The store in memory checks for the rule and for the earlier success by hand. It does not look
at the identifier under which a log is to be stored, so what it keeps unique is only what it issues
itself; and it can look for the earlier success only where the stored logs can be put in order.
-/

namespace AdRules.Database

/-! ## Constraints in the schema -/

/-- What the schema requires of the rows of a table. These kinds of constraints are the ones that
the schema names; the server is taken to enforce them as it says. -/
inductive Constraint where
  /-- The column is not empty. -/
  | present (column : String)
  /-- The column holds what a column of some row of another table holds. -/
  | reference (column table target : String)
  /-- No two rows share all of the columns. Where words are given for columns, only rows that hold
  one of them in each such column are compared. -/
  | unique (columns : List String) (scope : List (String × List String))
  deriving DecidableEq

namespace Constraint

/-- The constraints that a column is declared with. -/
def ofColumn (column : String) : List String → List Constraint
  | "PRIMARY" :: "KEY" :: rest => .unique [column] [] :: .present column :: ofColumn column rest
  | "NOT" :: "NULL" :: rest => .present column :: ofColumn column rest
  | "REFERENCES" :: table :: target :: rest =>
    .reference column table target :: ofColumn column rest
  | _ :: rest => ofColumn column rest
  | [] => []

/-- The constraints in the statement that creates a table. -/
def ofTable (definition : String) : List Constraint :=
  ((definition.toList.dropWhile (· != '(')).splitOnP (· == ',')).flatMap fun part =>
    match words part with
    | column :: declared => ofColumn column declared
    | [] => []

/-- The content of a quoted word. -/
def unquoted? (word : String) : Option String :=
  let quote := Char.ofNat 39
  match word.toList with
  | first :: rest =>
    if first == quote then some (String.ofList (rest.takeWhile (· != quote))) else none
  | [] => none

/-- A column with the words that it is compared to. -/
def comparison? : List String → Option (String × List String)
  | column :: "=" :: compared | column :: "IN" :: compared =>
    some (column, compared.filterMap unquoted?)
  | _ => none

/-- The constraint in the statement that creates a unique index, after the name of its table. -/
def ofIndex (table statement : String) : Constraint :=
  let rest := ((words statement.toList).dropWhile (· != table)).tail
  let conditions := (rest.dropWhile (· != "WHERE")).tail.splitOnP (· == "AND")
  .unique (rest.takeWhile (· != "WHERE")) (conditions.filterMap comparison?)

/-- The constraints on logs, from the statements that create their table and its unique index. -/
def onLogs : List Constraint :=
  ofTable (schema.getD 5 "") ++ [ofIndex "automation.action_logs" (schema.getD 7 "")]

/-- No two logs have the same identifier. -/
def identified : Constraint := .unique ["id"] []

/-- A log belongs to a rule. -/
def owned : Constraint := .reference "rule_id" "automation.automation_rules" "id"

/-- An action that is not repeatable succeeds once for a rule and a campaign. -/
def succeededOnce : Constraint :=
  .unique ["rule_id", "campaign_id", "action"]
    [("status", ["success"]), ("action", ["pause_campaign", "increase_budget", "decrease_budget"])]

/-- What the statement for the table of logs asks of its rows, read off the text of the schema. -/
theorem of_log_table : ofTable (schema.getD 5 "") =
    [identified, .present "id", .present "rule_id", owned, .present "campaign_id",
      .present "action", .present "action_value", .present "status", .present "metrics",
      .present "triggered_at"] := by
  simp only [ofTable, schema, List.getD_cons_succ, List.getD_cons_zero, String.toList_append,
    String.reduceToList]
  decide +kernel

/-- The words of the statement that creates the index. -/
theorem index_words : words (schema.getD 7 "").toList =
    ["CREATE", "UNIQUE", "INDEX", "IF", "NOT", "EXISTS", "uq_action_logs_non_repeatable", "ON",
      "automation.action_logs", "rule_id", "campaign_id", "action", "WHERE", "status", "=",
      "'success'", "AND", "action", "IN", "'pause_campaign'", "'increase_budget'",
      "'decrease_budget'", ";"] := by
  simp only [schema, List.getD_cons_succ, List.getD_cons_zero, String.toList_append,
    String.reduceToList]
  decide +kernel

/-- What the unique index on the logs asks of them, read off the text of the schema. -/
theorem of_log_index : ofIndex "automation.action_logs" (schema.getD 7 "") = succeededOnce := by
  rw [ofIndex, index_words]
  decide +kernel

/-- All that the schema asks of a row of the logs. The table and the index together ask for it, and
no other statement speaks of logs. -/
theorem on_logs : onLogs =
    [identified, .present "id", .present "rule_id", owned, .present "campaign_id",
      .present "action", .present "action_value", .present "status", .present "metrics",
      .present "triggered_at", succeededOnce] := by
  rw [onLogs, of_log_table, of_log_index]
  rfl

/-- The row is among those that are compared. -/
def Covers (scope : List (String × List String)) (row : Row) : Prop :=
  ∀ compared ∈ scope, ∃ word ∈ compared.2, row.value? compared.1 = some (.text word)

/-- Adding a row to the rows of a table would violate the constraint. -/
def Violated (tables : String → List Row) (rows : List Row) (row : Row) : Constraint → Prop
  | .present column => row.value? column = none ∨ row.value? column = some .null
  | .reference column table target =>
    ∀ parent ∈ tables table, parent.value? target ≠ row.value? column
  | .unique columns scope =>
    Covers scope row ∧ ∃ stored ∈ rows, Covers scope stored ∧
      ∀ column ∈ columns, stored.value? column = row.value? column

/-- A row that violates the constraint is in conflict with another one of its table. -/
def isConflict : Constraint → Bool
  | .unique _ _ => true
  | .present _ | .reference _ _ _ => false

end Constraint

/-! ## Rows of logs -/

/-- The value of a parameter. -/
def Parameter.content : Parameter → Value
  | .value bound | .document bound => bound

namespace Statement

/-- The row of an INSERT all of whose slots are placeholders. -/
def boundRow (statement : Statement) : Row :=
  match words statement.text.toList, statement.parameters with
  | "INSERT" :: "INTO" :: _ :: rest, some parameters =>
    (rest.takeWhile (· != "VALUES")).zip (parameters.map fun bound => .given bound.content)
  | _, _ => []

/-- An INSERT that leaves the table as it is where its row is in conflict with another one. -/
def givesWay (statement : Statement) : Bool :=
  ((words statement.text.toList).dropWhile (· != "ON")).take 4 ==
    ["ON", "CONFLICT", "DO", "NOTHING"]

end Statement

/-- The words of the statement that inserts a log. -/
theorem insert_log_words (id : String) (log : ActionLog) :
    words (Statement.insertLog id log).text.toList =
      ["INSERT", "INTO", "automation.action_logs", "id", "rule_id", "campaign_id", "action",
        "action_value", "status", "metrics", "triggered_at", "completed_at", "VALUES", "%s", "%s",
        "%s", "%s", "%s", "%s", "%s", "%s", "%s", "ON", "CONFLICT", "DO", "NOTHING", "RETURNING",
        "*"] := by
  unfold Statement.text
  simp only [String.toList_append, String.reduceToList]
  decide +kernel

/-! ## The rows of a store -/

/-- The row in which a log is stored. -/
def logRow (log : ActionLog) : Row := (Statement.insertLog (log.id.getD "") log).boundRow

/-- The row that is inserted for a log, with the values of its columns. Names of rule and campaign
are not among them. -/
theorem log_row (log : ActionLog) : logRow log =
    [("id", .given (.text (log.id.getD ""))), ("rule_id", .given (.text log.ruleId)),
      ("campaign_id", .given (.text log.campaignId)),
      ("action", .given (Vocabulary.toValue log.action)),
      ("action_value", .given (.text log.actionValue)),
      ("status", .given (Vocabulary.toValue log.status)),
      ("metrics", .given log.metrics.toValue), ("triggered_at", .given (.time log.triggeredAt)),
      ("completed_at", .given (.ofTime? log.completedAt))] := by
  rw [logRow, Statement.boundRow, insert_log_words]
  rfl

/-- The rows of a store, as far as constraints on logs refer to them. -/
def tableOf (store : Store) : String → List Row
  | "automation.automation_rules" => store.rules.map fun rule => [("id", .given (.text rule.id))]
  | "automation.action_logs" => store.logs.map logRow
  | _ => []

/-- Adding a log to those of a store would violate the constraint. -/
def Breaks (store : Store) (log : ActionLog) (constraint : Constraint) : Prop :=
  constraint.Violated (tableOf store) (tableOf store "automation.action_logs") (logRow log)

namespace Constraint

variable {store : Store} {log : ActionLog}

/-- What the columns hold that keys and references are made of. -/
theorem log_row_values (log : ActionLog) :
    (logRow log).value? "id" = some (.text (log.id.getD "")) ∧
      (logRow log).value? "rule_id" = some (.text log.ruleId) ∧
      (logRow log).value? "campaign_id" = some (.text log.campaignId) ∧
      (logRow log).value? "action" = some (Vocabulary.toValue log.action) ∧
      (logRow log).value? "status" = some (Vocabulary.toValue log.status) := by
  rw [log_row]
  exact ⟨rfl, rfl, rfl, rfl, rfl⟩

/-- No column of a log that has to be filled is empty. -/
theorem log_filled (column : String) (required : .present column ∈ onLogs) :
    ¬ Breaks store log (.present column) := by
  have filled : ∃ value, (logRow log).value? column = some value ∧ value ≠ .null := by
    rw [on_logs] at required
    simp only [identified, owned, succeededOnce, List.mem_cons, List.not_mem_nil, reduceCtorEq,
      present.injEq, false_or, or_false] at required
    rw [log_row]
    rcases required with rfl | rfl | rfl | rfl | rfl | rfl | rfl | rfl <;> exact ⟨_, rfl, nofun⟩
  obtain ⟨value, given, filled⟩ := filled
  simp [Breaks, Violated, given, filled]

/-- The rule of a log is missing exactly if it is not found. -/
theorem unowned_iff : Breaks store log owned ↔ store.rule? log.ruleId = none := by
  have parents : tableOf store "automation.automation_rules" =
      store.rules.map fun rule => [("id", .given (.text rule.id))] := rfl
  have named : ∀ rule : Rule,
      Row.value? [("id", .given (.text rule.id))] "id" = some (.text rule.id) := fun _ => rfl
  simp only [Breaks, owned, Violated, parents, List.forall_mem_map, named, log_row_values,
    Store.rule?, List.find?_eq_none, ne_eq, Option.some.injEq, Value.text.injEq, beq_iff_eq]

/-- A log is in conflict with a stored one that is compared too and agrees in all columns. -/
theorem conflict_iff {columns : List String} {scope : List (String × List String)} :
    Breaks store log (.unique columns scope) ↔
      Covers scope (logRow log) ∧ ∃ other ∈ store.logs, Covers scope (logRow other) ∧
        ∀ column ∈ columns, (logRow other).value? column = (logRow log).value? column := by
  have stored : tableOf store "automation.action_logs" = store.logs.map logRow := rfl
  simp only [Breaks, Violated, stored]
  refine and_congr_right fun _ => ?_
  constructor
  · rintro ⟨_, kept, agrees⟩
    obtain ⟨other, listed, rfl⟩ := List.mem_map.mp kept
    exact ⟨other, listed, agrees⟩
  · rintro ⟨other, listed, agrees⟩
    exact ⟨_, List.mem_map_of_mem listed, agrees⟩

/-- Another log is stored under the identifier. -/
theorem identified_iff : Breaks store log identified ↔
    ∃ other ∈ store.logs, other.id.getD "" = log.id.getD "" := by
  rw [identified, conflict_iff]
  simp [Covers, log_row_values]

/-- The logs that are compared are the successes of actions that are not repeatable. -/
theorem covers_once_iff : Covers [("status", ["success"]),
    ("action", ["pause_campaign", "increase_budget", "decrease_budget"])] (logRow log) ↔
      Store.isOnce log = true := by
  simp only [Covers, List.forall_mem_cons, log_row_values]
  cases status : log.status <;> cases action : log.action <;>
    simp [Store.isOnce, Action.isRepeatable, status, action, Vocabulary.toValue, Vocabulary.word]

/-- The words of actions tell them apart. -/
theorem action_value_injective {first second : Action}
    (same : Vocabulary.toValue first = Vocabulary.toValue second) : first = second := by
  cases first <;> cases second <;> simp_all [Vocabulary.toValue, Vocabulary.word]

/-- A log is in conflict with an earlier success if there may be only one and it is stored. -/
theorem succeeded_once_iff : Breaks store log succeededOnce ↔
    Store.isOnce log = true ∧ store.succeeded log.ruleId log.campaignId log.action = true := by
  rw [succeededOnce, conflict_iff, covers_once_iff]
  refine and_congr_right fun once => ?_
  simp only [Store.succeeded, List.any_eq_true]
  refine exists_congr fun other => and_congr_right fun stored => ?_
  rw [covers_once_iff]
  simp only [List.forall_mem_cons, log_row_values, Option.some.injEq, Value.text.injEq]
  constructor
  · rintro ⟨otherOnce, rule, campaign, action, _⟩
    have sameAction := action_value_injective action
    simp_all [Store.isOnce, ActionLog.isSuccessOf]
  · intro success
    simp_all [Store.isOnce, ActionLog.isSuccessOf]

/-- Only three constraints can be violated by a log. -/
theorem broken_cases {constraint : Constraint} (required : constraint ∈ onLogs)
    (breaks : Breaks store log constraint) :
    constraint = identified ∨ constraint = owned ∨ constraint = succeededOnce := by
  cases constraint with
  | present column => exact absurd breaks (log_filled column required)
  | reference column table target =>
    rw [on_logs] at required
    right
    left
    simpa [identified, owned, succeededOnce] using required
  | unique columns scope =>
    rw [on_logs] at required
    simpa [identified, owned, succeededOnce] using required

end Constraint

/-- The log can be added to those of a store: no constraint is violated. -/
def Inserts (store : Store) (log : ActionLog) : Prop :=
  ∀ constraint ∈ Constraint.onLogs, ¬ Breaks store log constraint

/-- The log is dropped: its insert gives way to a conflict with a stored one. -/
def Drops (store : Store) (log : ActionLog) : Prop :=
  (Statement.insertLog (log.id.getD "") log).givesWay = true ∧
    ∃ constraint ∈ Constraint.onLogs, constraint.isConflict = true ∧ Breaks store log constraint

section Outcomes

open Constraint

variable {store : Store} {log : ActionLog}

/-- A log can be inserted exactly if its identifier is free, its rule is stored, and it is no
repeated success. No log lacks a column that has to be there. -/
theorem inserts_iff : Inserts store log ↔
    ¬ Breaks store log identified ∧ ¬ Breaks store log owned ∧
      ¬ Breaks store log succeededOnce := by
  constructor
  · intro inserts
    exact ⟨inserts _ (by rw [on_logs]; decide), inserts _ (by rw [on_logs]; decide),
      inserts _ (by rw [on_logs]; decide)⟩
  · rintro ⟨unused, present, new⟩ constraint required breaks
    rcases broken_cases required breaks with rfl | rfl | rfl
    · exact unused breaks
    · exact present breaks
    · exact new breaks

/-- A log is dropped exactly if its identifier is taken or it is a repeated success. A missing rule
is no conflict but an error. -/
theorem drops_iff : Drops store log ↔
    Breaks store log identified ∨ Breaks store log succeededOnce := by
  have givesWay : (Statement.insertLog (log.id.getD "") log).givesWay = true := by
    rw [Statement.givesWay, insert_log_words]
    rfl
  constructor
  · rintro ⟨_, constraint, required, conflict, breaks⟩
    rcases broken_cases required breaks with rfl | rfl | rfl
    · exact .inl breaks
    · cases conflict
    · exact .inr breaks
  · rintro (breaks | breaks)
    · exact ⟨givesWay, _, by rw [on_logs]; decide, rfl, breaks⟩
    · exact ⟨givesWay, _, by rw [on_logs]; decide, rfl, breaks⟩

end Outcomes

end AdRules.Database

namespace AdRules.Memory

open Database (Breaks Constraint Inserts Drops)

/-! ## Rules of logs -/

/-- Every stored log belongs to a stored rule. -/
def Owned (store : Store) : Prop := ∀ log ∈ store.logs, log.ruleId ∈ store.rules.map (·.id)

/-- No call takes the rule of a log away without the log, so the reference from logs to rules is
never broken. -/
theorem owned_step [IdSupply] {memory after : Memory} {reply : Reply}
    (step : Step memory reply after) (owned : Owned memory.store) : Owned after.store := by
  obtain ⟨call, effect⟩ := step
  cases effect with
  | kept counted issued more shown => exact owned
  | measured snapshot =>
    obtain ⟨sameRules, sameLogs, _⟩ :=
      Store.upsert_frame memory.store memory.now memory.issued snapshot
    simp only [Owned, keep, sameRules, sameLogs]
    exact owned
  | created draft owner =>
    intro log stored
    simp only [keep, Store.createRule, List.map_append]
    exact List.mem_append_left _ (owned log stored)
  | changed rule change found =>
    intro log stored
    simp only [keep, Store.put_rule_ids]
    exact owned log stored
  | deleted id =>
    intro log stored
    obtain ⟨before, other⟩ := List.mem_filter.mp stored
    obtain ⟨rule, inStore, named⟩ := List.mem_map.mp (owned log before)
    exact List.mem_map.mpr ⟨rule, List.mem_filter.mpr ⟨inStore, named.symm ▸ other⟩, named⟩
  | recorded rule log issued more found first =>
    intro other stored
    have ids : (memory.store.append memory.now rule log).rules.map (·.id) =
        memory.store.rules.map (·.id) := Store.put_rule_ids
    simp only [keep, ids]
    rcases List.mem_append.mp stored with before | new
    · exact owned other before
    · rw [List.mem_singleton.mp new, ← Store.rule?_isSome, found]
      rfl

/-- After every history the logs belong to stored rules. By induction on the history, since deleting
a rule takes its logs along. -/
theorem run_owned [IdSupply] (history : List Event) : Owned (run history).store := by
  apply run_induction (motive := fun _ memory => Owned memory.store)
  · simp [Owned, start, Store.empty]
  · intro _ memory moment reply after owned step
    exact owned_step step owned

/-! ## Recording -/

/-- If the log may be recorded only once, an earlier success can be looked for. -/
def Checkable (memory : Memory) (log : ActionLog) : Prop :=
  Store.isOnce log = true → Timestamp.uniform (memory.store.logs.map (·.triggeredAt)) = true

/-- What comes of recording a log, beside what the constraints say of it in the row that it would be
stored in. -/
structure Admission [IdSupply] (memory : Memory) (log : ActionLog) : Prop where
  /-- A log is recorded exactly if it violates no constraint but that on identifiers, provided that
  the check for an earlier success can be made. -/
  recorded : (∃ stored after, repository.record log memory = .ok (some stored) after) ↔
    Checkable memory log ∧ ∀ constraint ∈ Constraint.onLogs,
      Breaks memory.store (Store.identified memory.issued log) constraint →
        constraint = .identified
  appended : ∀ stored after, repository.record log memory = .ok (some stored) after →
    after.store.logs = memory.store.logs ++ [Store.identified memory.issued log]
  /-- There is no result exactly if an earlier success is stored. -/
  dropped : ∀ after, repository.record log memory = .ok none after ↔
    after = memory ∧ Checkable memory log ∧
      Breaks memory.store (Store.identified memory.issued log) .succeededOnce
  refused : ∀ failure after, repository.record log memory = .error failure after → after = memory
  /-- Where the identifier is not in use and the check can be made, this is what the database does
  with the same rules and logs. -/
  agrees : Checkable memory log →
    ¬ Breaks memory.store (Store.identified memory.issued log) .identified →
      ((∃ stored after, repository.record log memory = .ok (some stored) after) ↔
        Inserts memory.store (Store.identified memory.issued log)) ∧
      (repository.record log memory = .ok none memory ↔
        Drops memory.store (Store.identified memory.issued log))

section Admissions

variable [IdSupply] {memory : Memory} {log : ActionLog}

/-- The rule of the stored row is missing if that of the log is not found. -/
theorem entry_unowned_iff : Breaks memory.store (Store.identified memory.issued log) .owned ↔
    memory.store.rule? log.ruleId = none :=
  Constraint.unowned_iff

/-- The stored row is in conflict with an earlier success if the log may be recorded only once. -/
theorem entry_repeats_iff :
    Breaks memory.store (Store.identified memory.issued log) .succeededOnce ↔
      Store.isOnce log = true ∧
        memory.store.succeeded log.ruleId log.campaignId log.action = true :=
  Constraint.succeeded_once_iff

/-- No constraint is violated, apart from that on identifiers, exactly if the store finds the rule
and no earlier success where there may be only one. -/
theorem unbroken_iff :
    (∀ constraint ∈ Constraint.onLogs,
      Breaks memory.store (Store.identified memory.issued log) constraint →
        constraint = .identified) ↔
      memory.store.rule? log.ruleId ≠ none ∧
        (Store.isOnce log = true →
          memory.store.succeeded log.ruleId log.campaignId log.action = false) := by
  constructor
  · intro unbroken
    constructor
    · intro missing
      have wrong := unbroken _ (by rw [Constraint.on_logs]; decide) (entry_unowned_iff.mpr missing)
      exact absurd wrong (by decide)
    · intro once
      rw [Bool.eq_false_iff]
      intro before
      have wrong := unbroken _ (by rw [Constraint.on_logs]; decide)
        (entry_repeats_iff.mpr ⟨once, before⟩)
      exact absurd wrong (by decide)
  · rintro ⟨found, new⟩ constraint required breaks
    rcases Constraint.broken_cases required breaks with rfl | rfl | rfl
    · rfl
    · exact absurd (entry_unowned_iff.mp breaks) found
    · obtain ⟨once, before⟩ := entry_repeats_iff.mp breaks
      simp [new once] at before

/-- In memory a log is stored exactly if its rule is, and it is no repetition. Its own identifier is
never looked at, which is where the memory and the database differ. -/
theorem recorded_iff :
    (∃ stored after, repository.record log memory = .ok (some stored) after) ↔
      Checkable memory log ∧ memory.store.rule? log.ruleId ≠ none ∧
        (Store.isOnce log = true →
          memory.store.succeeded log.ruleId log.campaignId log.action = false) := by
  constructor
  · rintro ⟨stored, after, ran⟩
    cases RecordCourse.of_run ran with
    | appended rule found first =>
      exact ⟨fun once => (first once).1, by simp [found], fun once => (first once).2⟩
  · rintro ⟨checkable, found, new⟩
    have course : RecordCourse memory log _ := record_course log
    generalize repository.record log memory = result at course ⊢
    cases course with
    | unowned missing => exact absurd missing found
    | unordered rule _ once mixed => simp [checkable once] at mixed
    | repeated rule _ once ordered before => simp [new once] at before
    | appended rule _ first => exact ⟨_, _, rfl⟩

/-- Where every stored log belongs to a rule, an earlier success is found with its rule. -/
theorem dropped_iff (owned : Owned memory.store) (after : Memory) :
    repository.record log memory = .ok none after ↔ after = memory ∧ Checkable memory log ∧
      Store.isOnce log = true ∧
        memory.store.succeeded log.ruleId log.campaignId log.action = true := by
  constructor
  · intro ran
    cases RecordCourse.of_run ran with
    | repeated rule found once ordered before => exact ⟨rfl, fun _ => ordered, once, before⟩
  · rintro ⟨rfl, checkable, once, before⟩
    have found : after.store.rule? log.ruleId ≠ none := by
      obtain ⟨earlier, listed, success⟩ := List.any_eq_true.mp before
      have same : earlier.ruleId = log.ruleId := by
        simp only [ActionLog.isSuccessOf, Bool.and_eq_true, beq_iff_eq] at success
        exact success.1.1.1
      rw [← Option.isSome_iff_ne_none, Store.rule?_isSome, ← same]
      exact owned earlier listed
    have course : RecordCourse after log _ := record_course log
    generalize repository.record log after = result at course ⊢
    cases course with
    | unowned missing => exact absurd missing found
    | unordered rule _ _ mixed => simp [checkable once] at mixed
    | repeated rule _ _ _ _ => rfl
    | appended rule _ first => simp [(first once).2] at before

/-- Where every stored log belongs to a rule, recording a log ends as the constraints say. -/
theorem admission (owned : Owned memory.store) : Admission memory log where
  recorded := by rw [recorded_iff, unbroken_iff]
  appended := by
    intro stored after ran
    cases RecordCourse.of_run ran
    rfl
  dropped := by
    intro after
    rw [dropped_iff owned, entry_repeats_iff]
  refused := by
    intro failure after ran
    cases RecordCourse.of_run ran <;> rfl
  agrees := by
    intro checkable unused
    constructor
    · rw [recorded_iff, Database.inserts_iff, entry_unowned_iff, entry_repeats_iff]
      simp [checkable, unused]
    · rw [dropped_iff owned, Database.drops_iff, entry_repeats_iff]
      simp [checkable, unused]

/-! ## Identifiers that the store issues -/

/-- Every log has an identifier of its own that was issued before. So it is where nobody brings
identifiers along. -/
structure OwnIds (memory : Memory) : Prop where
  issuedBefore : ∀ log ∈ memory.store.logs, ∃ count < memory.issued, log.id = some (freshId count)
  distinct : (memory.store.logs.map (·.id)).Nodup

/-- The call leaves it to the store to identify what it records. -/
def Call.LeavesIds (call : Call) : Prop := ∀ log, call = .record log → givenId? log.id = none

/-- Logs that are still stored keep the identifiers they have. -/
theorem OwnIds.of_sublist (own : OwnIds memory) {store : Store} {issued : Nat}
    (fewer : store.logs.Sublist memory.store.logs) (more : memory.issued ≤ issued) :
    OwnIds (memory.keep store issued) where
  issuedBefore := by
    intro log stored
    obtain ⟨count, before, named⟩ := own.issuedBefore log (fewer.subset stored)
    exact ⟨count, by simp only [keep]; omega, named⟩
  distinct := own.distinct.sublist (fewer.map _)

/-- A new identifier is that of no stored log. -/
theorem OwnIds.new (own : OwnIds memory) :
    some (freshId memory.issued) ∉ memory.store.logs.map (·.id) := by
  intro taken
  obtain ⟨log, stored, same⟩ := List.mem_map.mp taken
  obtain ⟨count, before, named⟩ := own.issuedBefore log stored
  have equal : count = memory.issued :=
    fresh_id_injective (Option.some.inj (named.symm.trans same))
  omega

/-- A log that is given a new identifier has it for itself. -/
theorem OwnIds.append (own : OwnIds memory) (rule : Rule) (unnamed : givenId? log.id = none) :
    OwnIds (memory.keep (memory.store.append memory.now rule (Store.identified memory.issued log))
      (Store.issuedAfter memory.issued log)) := by
  have named : (Store.identified memory.issued log).id = some (freshId memory.issued) := by
    simp [Store.identified, unnamed]
  have issued : Store.issuedAfter memory.issued log = memory.issued + 1 := by
    simp [Store.issuedAfter, unnamed]
  constructor
  · intro other stored
    simp only [keep, Store.append_logs, List.mem_append, List.mem_singleton, issued] at stored ⊢
    rcases stored with before | rfl
    · obtain ⟨count, earlier, ownId⟩ := own.issuedBefore other before
      exact ⟨count, by omega, ownId⟩
    · exact ⟨memory.issued, by omega, named⟩
  · simp only [keep, Store.append_logs, List.map_append, List.map_cons, List.map_nil, named]
    rw [List.nodup_append]
    refine ⟨own.distinct, by simp, ?_⟩
    rintro id before _ last rfl
    rw [List.mem_singleton.mp last] at before
    exact own.new before

/-- Every call that leaves identifiers to the store keeps them apart. A call that brings one along
need not: the store does not look for it. -/
theorem own_ids_step (own : OwnIds memory) {call : Call} (leaves : call.LeavesIds) :
    OwnIds (call.answer memory).2 := by
  by_cases records : ∃ log, call = .record log
  · obtain ⟨log, rfl⟩ := records
    have course : RecordCourse memory log (repository.record log memory) := record_course log
    simp only [Call.answer, Call.perform, settle, Act.map_apply]
    generalize repository.record log memory = result at course
    cases course with
    | unowned _ | unordered _ _ _ _ | repeated _ _ _ _ _ => exact own
    | appended rule _ _ => exact own.append rule (leaves log rfl)
  · have effect : Effect memory call _ _ := call_effect call
    generalize (call.answer memory).1 = reply, (call.answer memory).2 = after at effect
    cases effect with
    | kept counted issued more shown => exact own.of_sublist (List.Sublist.refl _) more
    | measured snapshot =>
      obtain ⟨_, sameLogs, more⟩ :=
        Store.upsert_frame memory.store memory.now memory.issued snapshot
      exact own.of_sublist (sameLogs ▸ List.Sublist.refl _) more
    | created draft owner =>
      exact own.of_sublist (List.Sublist.refl _) (by simp only [Store.createRule]; omega)
    | changed rule change found => exact own.of_sublist (List.Sublist.refl _) (by omega)
    | deleted id => exact own.of_sublist List.filter_sublist (Nat.le_refl _)
    | recorded rule log issued more found first => exact absurd ⟨_, rfl⟩ records

/-- By induction on the history. -/
theorem run_from_own_ids (history : List Event)
    (leaves : ∀ event ∈ history, event.call.LeavesIds) (own : OwnIds memory) :
    OwnIds (runFrom memory history) := by
  induction history generalizing memory with
  | nil => exact own
  | cons event rest inductionHypothesis =>
    have atMoment : OwnIds (memory.setClock event.moment) := ⟨own.issuedBefore, own.distinct⟩
    exact inductionHypothesis (fun other later => leaves other (List.mem_cons_of_mem _ later))
      (own_ids_step atMoment (leaves event List.mem_cons_self))

/-- In every history a log is recorded exactly if it violates none of the constraints on stored logs
but perhaps that on identifiers, and dropped exactly if an earlier success is stored, provided that
this can be looked for. The store accepts what the database does as long as callers leave it to the
store to identify logs: then no two logs ever have the same identifier, and a new one is not in
use. -/
theorem logs_admitted (history : List Event) :
    (∀ moment log, Admission ((run history).setClock moment) log) ∧
      ((∀ event ∈ history, event.call.LeavesIds) →
        ((run history).store.logs.map (·.id)).Nodup ∧
          ∀ log, givenId? log.id = none →
            ¬ Breaks (run history).store (Store.identified (run history).issued log)
              .identified) := by
  constructor
  · intro moment log
    exact admission (run_owned history)
  · intro leaves
    have initially : OwnIds start := ⟨by simp [start, Store.empty], by simp [start, Store.empty]⟩
    have own : OwnIds (run history) := run_from_own_ids history leaves initially
    refine ⟨own.distinct, ?_⟩
    intro log unnamed breaks
    obtain ⟨other, stored, same⟩ := Constraint.identified_iff.mp breaks
    obtain ⟨count, before, named⟩ := own.issuedBefore other stored
    have equal : freshId count = freshId (run history).issued := by
      simpa [named, Store.identified, unnamed] using same
    have wrong := fresh_id_injective equal
    omega

end Admissions

/-- A notification that comes with an identifier. -/
def notified : ActionLog :=
  ⟨some "log-a", freshId 0, "summer", .sendNotification, defaultActionValue, .success, unspent,
    ⟨2, none⟩, none, none, none⟩

/-- It is recorded twice. -/
def notifiedTwice : List Event :=
  [⟨0, .createRule (alwaysDue .sendNotification) .null⟩, ⟨1, .record notified⟩,
    ⟨2, .record notified⟩]

/-- A notice that was recorded twice is admitted once more. The logs of another history have
distinct identifiers, because nobody gave them any. -/
theorem sample_logs_admitted :
    Admission ((run notifiedTwice).setClock 3) notified ∧
      ((run sample).store.logs.map (·.id)).Nodup := by
  have leaves : ∀ event ∈ sample, event.call.LeavesIds := by
    intro event member log records
    simp only [sample, List.mem_cons, List.not_mem_nil, or_false] at member
    rcases member with rfl | rfl | rfl | rfl | rfl <;> cases records <;> rfl
  exact ⟨(logs_admitted notifiedTwice).1 3 notified, ((logs_admitted sample).2 leaves).1⟩

/-- An identifier that is in use is no obstacle: both notifications are stored under it, though the
schema says that identifiers are distinct. -/
theorem identifier_stored_twice :
    ¬ ∀ (history : List Event) (moment : Int) (log : ActionLog),
      ((∃ stored after,
          repository.record log ((run history).setClock moment) = .ok (some stored) after) ↔
        Inserts (run history).store (Store.identified (run history).issued log)) ∧
      (Drops (run history).store (Store.identified (run history).issued log) →
        repository.record log ((run history).setClock moment) =
          .ok none ((run history).setClock moment)) ∧
      ((run history).store.logs.map (·.id)).Nodup := by
  intro sameContract
  have distinct := (sameContract notifiedTwice 3 notified).2.2
  exact absurd distinct (by decide +kernel)

end AdRules.Memory

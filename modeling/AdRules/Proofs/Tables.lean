import AdRules.Database.Connection

/-!
# The rows that statements insert

An INSERT names columns and gives each a slot: a placeholder, for which the next parameter stands, a
constant or the moment. Together with the columns of its table this makes a row. What is read here
is the text that is sent, so a column that is named in another order than its parameter is bound
would show.
-/

namespace AdRules.Database

/-- The words of a text; blanks, commas and parentheses stand between them. -/
def words (text : List Char) : List String :=
  ((text.splitOnP fun letter => [' ', ',', '(', ')'].contains letter).filter
    (!·.isEmpty)).map String.ofList

/-! ## Tables and rows -/

/-- A table that rules are kept in. -/
inductive Table where
  | rules
  | groups
  | conditions
  deriving DecidableEq

namespace Table

/-- What a table is called in statements. -/
def name : Table → String
  | rules => "automation.automation_rules"
  | groups => "automation.condition_groups"
  | conditions => "automation.conditions"

/-- The statement of the schema that creates a table. -/
def definition : Table → String
  | rules => schema.getD 2 ""
  | groups => schema.getD 3 ""
  | conditions => schema.getD 4 ""

/-- The columns of a table. Each part of its definition begins with one. -/
def columns (table : Table) : List String :=
  ((table.definition.toList.dropWhile (· != '(')).splitOnP (· == ',')).filterMap fun part =>
    (words part).head?

end Table

/-- What is put in a column: a value, or the moment at which it is put there. -/
inductive Cell where
  | given (value : Value)
  | moment

/-- A row of a table, by its columns. Columns that an INSERT does not name are not in it. -/
abbrev Row := List (String × Cell)

/-- The value in a column. -/
def Row.value? (row : Row) (column : String) : Option Value :=
  match row.lookup column with
  | some (.given value) => some value
  | _ => none

/-- What some slots give when parameters are bound to the placeholders among them, in order. -/
def cells : List String → List Parameter → Option (List Cell)
  | [], [] => some []
  | "%s" :: slots, .value value :: parameters => (cells slots parameters).map (.given value :: ·)
  | "0" :: slots, parameters => (cells slots parameters).map (.given (.int 0) :: ·)
  | "CURRENT_TIMESTAMP" :: slots, parameters => (cells slots parameters).map (.moment :: ·)
  | _, _ => none

namespace Statement

/-- The table that an INSERT is for, with what it puts in the columns that it names. -/
def insertion? (statement : Statement) : Option (String × Row) :=
  match words statement.text.toList, statement.parameters with
  | "INSERT" :: "INTO" :: table :: rest, some parameters =>
    (cells (rest.dropWhile (· != "VALUES")).tail parameters).map fun cells =>
      (table, (rest.takeWhile (· != "VALUES")).zip cells)
  | _, _ => none

/-- The row that an INSERT adds to a table. Columns that it does not name are left empty. -/
def rowIn? (table : Table) (statement : Statement) : Option Row :=
  match statement.insertion? with
  | some (name, named) =>
    if name == table.name then
      some (table.columns.map fun column => (column, (named.lookup column).getD (.given .null)))
    else none
  | none => none

/-- The statement only asks. Whatever the server makes of it, nothing is written. -/
def isQuery : Statement → Bool
  | .selectLatestCampaign | .selectLogsOfCampaign _ _ | .selectRule _ | .selectRules
  | .selectActiveRules | .selectGroups _ | .selectConditions _ | .selectLogsOfRule _ _
  | .selectLogs _ _ | .findLog _ _ _ _ => true
  | _ => false

end Statement

/-- The rows that some statements add to a table. -/
def rowsIn (table : Table) (statements : List Statement) : List Row :=
  statements.filterMap (·.rowIn? table)

/-- The rows that statements leave in a table, one list of them after another. -/
theorem rows_in_append (table : Table) (first second : List Statement) :
    rowsIn table (first ++ second) = rowsIn table first ++ rowsIn table second :=
  List.filterMap_append

/-! ## The statements that insert rules -/

/-- The columns of the table of rules, read off the schema. -/
theorem rules_columns : Table.columns .rules =
    ["id", "name", "description", "action", "action_value", "is_active", "trigger_count",
      "last_triggered", "created_by", "created_at", "updated_at"] := by
  simp only [Table.columns, Table.definition, schema, List.getD_cons_succ, List.getD_cons_zero,
    String.toList_append, String.reduceToList]
  decide +kernel

/-- The columns of the table of groups, read off the schema. -/
theorem groups_columns : Table.columns .groups = ["id", "rule_id", "operator", "sort_order"] := by
  simp only [Table.columns, Table.definition, schema, List.getD_cons_succ, List.getD_cons_zero,
    String.toList_append, String.reduceToList]
  decide +kernel

/-- The columns of the table of conditions, read off the schema. -/
theorem conditions_columns : Table.columns .conditions =
    ["id", "group_id", "metric", "operator", "threshold", "sort_order"] := by
  simp only [Table.columns, Table.definition, schema, List.getD_cons_succ, List.getD_cons_zero,
    String.toList_append, String.reduceToList]
  decide +kernel

/-- The words of the statement that inserts a rule. -/
theorem insert_rule_words (id : String) (draft : RuleDraft) (owner : Value) :
    words (Statement.insertRule id draft owner).text.toList =
      ["INSERT", "INTO", "automation.automation_rules", "id", "name", "description", "action",
        "action_value", "is_active", "trigger_count", "created_by", "created_at", "updated_at",
        "VALUES", "%s", "%s", "%s", "%s", "%s", "%s", "0", "%s", "CURRENT_TIMESTAMP",
        "CURRENT_TIMESTAMP"] := by
  unfold Statement.text
  simp only [String.toList_append, String.reduceToList]
  decide +kernel

/-- The words of the statement for a group. They are the same for every group, since values stand in
placeholders. -/
theorem insert_group_words (id : String) (ruleId : Value) (junction : Junction) (order : Nat) :
    words (Statement.insertGroup id ruleId junction order).text.toList =
      ["INSERT", "INTO", "automation.condition_groups", "id", "rule_id", "operator", "sort_order",
        "VALUES", "%s", "%s", "%s", "%s"] := by
  unfold Statement.text
  simp only [String.toList_append, String.reduceToList]
  decide +kernel

/-- The words of the statement for a condition, the same for every condition. -/
theorem insert_condition_words (id groupId : String) (draft : ConditionDraft) (order : Nat) :
    words (Statement.insertCondition id groupId draft order).text.toList =
      ["INSERT", "INTO", "automation.conditions", "id", "group_id", "metric", "operator",
        "threshold", "sort_order", "VALUES", "%s", "%s", "%s", "%s", "%s", "%s"] := by
  unfold Statement.text
  simp only [String.toList_append, String.reduceToList]
  decide +kernel

/-- The row of a new rule. -/
def ruleRow (id : String) (draft : RuleDraft) (owner : Value) : Row :=
  [("id", .given (.text id)), ("name", .given (.text draft.name)),
    ("description", .given (.ofText? draft.description)),
    ("action", .given (Vocabulary.toValue draft.action)),
    ("action_value", .given (.ofText? draft.actionValue)),
    ("is_active", .given (.bool draft.isActive)), ("trigger_count", .given (.int 0)),
    ("last_triggered", .given .null), ("created_by", .given owner), ("created_at", .moment),
    ("updated_at", .moment)]

/-- The row of a group. -/
def groupRow (group : ConditionGroup) : Row :=
  [("id", .given (.ofText? group.id)), ("rule_id", .given (.ofText? group.ruleId)),
    ("operator", .given group.junction.toValue), ("sort_order", .given (.int group.order))]

/-- The row of a condition. -/
def conditionRow (condition : Condition) : Row :=
  [("id", .given condition.id), ("group_id", .given condition.groupId),
    ("metric", .given condition.metric.toValue), ("operator", .given condition.comparison.toValue),
    ("threshold", .given condition.threshold), ("sort_order", .given condition.order)]

/-- A statement that inserts into a table adds a row to that one and to no other. -/
theorem rows_in_cons {statement : Statement} {table : Table} {named row : Row}
    (inserted : statement.insertion? = some (table.name, named))
    (complete : table.columns.map (fun column =>
      (column, (named.lookup column).getD (.given .null))) = row)
    (other : Table) (rest : List Statement) :
    rowsIn other (statement :: rest) =
      if other = table then row :: rowsIn other rest else rowsIn other rest := by
  have sameName : (table.name == other.name) = decide (other = table) := by
    cases table <;> cases other <;> decide +kernel
  by_cases same : other = table
  · subst same
    simp only [rowsIn, List.filterMap_cons, Statement.rowIn?, inserted, beq_self_eq_true, if_true,
      complete]
  · simp only [rowsIn, List.filterMap_cons, Statement.rowIn?, inserted, sameName, same,
      decide_false, Bool.false_eq_true, if_false]

/-- Inserting a rule adds its row to the table of rules and to no other. -/
theorem insert_rule_rows (id : String) (draft : RuleDraft) (owner : Value) :
    ∀ table rest, rowsIn table (.insertRule id draft owner :: rest) =
      if table = .rules then ruleRow id draft owner :: rowsIn table rest
      else rowsIn table rest := by
  have inserted : (Statement.insertRule id draft owner).insertion? =
      some (Table.name .rules, (ruleRow id draft owner).filter (·.1 != "last_triggered")) := by
    rw [Statement.insertion?, insert_rule_words]
    rfl
  exact rows_in_cons inserted (by rw [rules_columns]; rfl)

/-- Inserting a group adds its row to the table of groups and to no other. -/
theorem insert_group_rows (id ruleId : String) (junction : Junction) (order : Nat)
    (conditions : List Condition) :
    ∀ table rest, rowsIn table (.insertGroup id (.text ruleId) junction order :: rest) =
      if table = .groups then
        groupRow ⟨some id, some ruleId, .known junction, order, conditions⟩ :: rowsIn table rest
      else rowsIn table rest := by
  have inserted : (Statement.insertGroup id (.text ruleId) junction order).insertion? =
      some (Table.name .groups,
        groupRow ⟨some id, some ruleId, .known junction, order, conditions⟩) := by
    rw [Statement.insertion?, insert_group_words]
    rfl
  exact rows_in_cons inserted (by rw [groups_columns]; rfl)

/-- Inserting a condition adds its row to the table of conditions and to no other. -/
theorem insert_condition_rows (id groupId : String) (draft : ConditionDraft) (order : Nat) :
    ∀ table rest, rowsIn table (.insertCondition id groupId draft order :: rest) =
      if table = .conditions then
        conditionRow ⟨.text id, .text groupId, .known draft.metric, .known draft.comparison,
          .float draft.threshold, .int order⟩ :: rowsIn table rest
      else rowsIn table rest := by
  have inserted : (Statement.insertCondition id groupId draft order).insertion? =
      some (Table.name .conditions, conditionRow ⟨.text id, .text groupId, .known draft.metric,
        .known draft.comparison, .float draft.threshold, .int order⟩) := by
    rw [Statement.insertion?, insert_condition_words]
    rfl
  exact rows_in_cons inserted (by rw [conditions_columns]; rfl)

end AdRules.Database

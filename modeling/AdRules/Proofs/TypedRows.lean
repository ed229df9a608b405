import AdRules.Proofs.LogConstraints
import AdRules.Proofs.RowReading

/-!
# Rows with the types of their columns

The schema declares of every column what type it has and whether it may be empty. Any row that meets
the declarations of its table can be read: as a condition whatever its metric and comparison are, as
a group whatever its junction is, and as a rule exactly if it is valid as one.
-/

namespace AdRules.Fields

/-- The text in a column. -/
def text? (row : Fields) (name : String) : Option String :=
  match row.getD name with
  | .text content => some content
  | _ => none

/-- The integer in a column. -/
def int? (row : Fields) (name : String) : Option Int :=
  match row.getD name with
  | .int number => some number
  | _ => none

/-- A field that is given has its value, whatever its default. -/
theorem getD_given {row : Fields} {name : String} {value : Value}
    (given : row.get? name = some value) : row.getD name = value := by
  rw [getD, given, Option.getD_some]

end AdRules.Fields

namespace AdRules.Database

/-! ## Declared columns -/

/-- The types that columns of rules, groups and conditions have. The schema declares no others for
them. -/
inductive ColumnType where
  | text
  | integer
  | double
  | boolean
  | timestamp
  deriving DecidableEq

namespace ColumnType

/-- The type that a declaration names after its column. -/
def ofWords? : List String → Option ColumnType
  | "TEXT" :: _ => some text
  | "INTEGER" :: _ => some integer
  | "DOUBLE" :: "PRECISION" :: _ => some double
  | "BOOLEAN" :: _ => some boolean
  | "TIMESTAMP" :: _ => some timestamp
  | _ => none

/-- The value is one of the type. -/
def Admits : ColumnType → Value → Prop
  | text, value => ∃ content, value = .text content
  | integer, value => ∃ number, value = .int number
  | double, value => ∃ number, value = .float number
  | boolean, value => ∃ flag, value = .bool flag
  | timestamp, value => ∃ moment, value = .time moment

end ColumnType

/-- A column as it is declared, read from the statement of the schema that creates its table. -/
structure Column where
  name : String
  type : ColumnType
  constraints : List Constraint
  deriving DecidableEq

namespace Column

/-- The declaration in a part of the statement that creates a table. -/
def ofPart? (part : List Char) : Option Column :=
  match words part with
  | name :: declared =>
    (ColumnType.ofWords? declared).map fun type =>
      ⟨name, type, Constraint.ofColumn name declared⟩
  | [] => none

/-- The value may stand in the column: it has its type, or it is null where that is allowed. -/
def Admits (column : Column) (value : Value) : Prop :=
  column.type.Admits value ∨ (value = .null ∧ .present column.name ∉ column.constraints)

/-- What stands in a column that has to be filled is of its type. -/
theorem Admits.filled {column : Column} {value : Value} (admits : column.Admits value)
    (required : .present column.name ∈ column.constraints) : column.type.Admits value :=
  admits.elim id fun missing => absurd required missing.2

end Column

namespace Table

/-- The columns of a table as they are declared. -/
def declared (table : Table) : List Column :=
  ((table.definition.toList.dropWhile (· != '(')).splitOnP (· == ',')).filterMap Column.ofPart?

/-- The row has a value for every column of the table, and besides only what a query computes. -/
structure Typed (table : Table) (computed : List String) (row : Fields) : Prop where
  each : ∀ column ∈ table.declared, ∃ value, row.get? column.name = some value ∧
    column.Admits value
  only : ∀ name ∈ row.map (·.1), name ∈ table.declared.map (·.name) ∨ name ∈ computed

/-- The rows have the columns of the table and share no value of a column that is unique. -/
structure TypedAll (table : Table) (computed : List String) (rows : List Fields) : Prop where
  each : ∀ row ∈ rows, table.Typed computed row
  unique : ∀ column ∈ table.declared, .unique [column.name] [] ∈ column.constraints →
    (rows.map (·.getD column.name)).Nodup

end Table

/-- The key of a table. -/
def keyColumn : Column := ⟨"id", .text, [.unique ["id"] [], .present "id"]⟩

/-- A column that has to be filled. -/
def filledColumn (name : String) (type : ColumnType) : Column := ⟨name, type, [.present name]⟩

/-- A column that may be empty. -/
def openColumn (name : String) (type : ColumnType) : Column := ⟨name, type, []⟩

/-- A column that has to be filled with the identifier of a row of another table. -/
def parentColumn (name table : String) : Column :=
  ⟨name, .text, [.present name, .reference name table "id"]⟩

/-- What the schema declares of the columns of rules. -/
theorem rules_declared : Table.declared .rules =
    [keyColumn, filledColumn "name" .text, openColumn "description" .text,
      filledColumn "action" .text, openColumn "action_value" .text,
      filledColumn "is_active" .boolean, filledColumn "trigger_count" .integer,
      openColumn "last_triggered" .timestamp, openColumn "created_by" .text,
      filledColumn "created_at" .timestamp, filledColumn "updated_at" .timestamp] := by
  simp only [Table.declared, Table.definition, schema, List.getD_cons_succ, List.getD_cons_zero,
    String.toList_append, String.reduceToList]
  decide +kernel

/-- What the schema declares of the columns of groups. -/
theorem groups_declared : Table.declared .groups =
    [keyColumn, parentColumn "rule_id" "automation.automation_rules",
      filledColumn "operator" .text, filledColumn "sort_order" .integer] := by
  simp only [Table.declared, Table.definition, schema, List.getD_cons_succ, List.getD_cons_zero,
    String.toList_append, String.reduceToList]
  decide +kernel

/-- What the schema declares of the columns of conditions. The threshold is a double, so it can be
not-a-number, but nothing else that is no number. -/
theorem conditions_declared : Table.declared .conditions =
    [keyColumn, parentColumn "group_id" "automation.condition_groups",
      filledColumn "metric" .text, filledColumn "operator" .text,
      filledColumn "threshold" .double, filledColumn "sort_order" .integer] := by
  simp only [Table.declared, Table.definition, schema, List.getD_cons_succ, List.getD_cons_zero,
    String.toList_append, String.reduceToList]
  decide +kernel

/-! ## Conditions -/

/-- The condition in a row. Where the metric or the comparison is not known it is kept as stored. -/
def conditionFrom (row : Fields) : Condition :=
  ⟨row.getD "id", row.getD "group_id", Term.read (row.getD "metric"),
    Term.read (row.getD "operator"), row.getD "threshold", row.getD "sort_order"⟩

namespace Table.Typed

variable {computed : List String} {row : Fields}

/-- What a column holds that has to be filled. -/
theorem filled {table : Table} (typed : table.Typed computed row) (column : Column)
    (declared : column ∈ table.declared) (required : .present column.name ∈ column.constraints) :
    ∃ value, row.get? column.name = some value ∧ column.type.Admits value := by
  obtain ⟨value, given, admits⟩ := typed.each column declared
  exact ⟨value, given, admits.filled required⟩

/-- There is nothing under a name that is neither declared nor computed. -/
theorem absent {table : Table} (typed : table.Typed computed row) {name : String}
    (undeclared : name ∉ table.declared.map (·.name)) (uncomputed : name ∉ computed) :
    row.get? name = none := by
  have unlisted : row.find? (fun field => field.1 == name) = none := by
    rw [List.find?_eq_none]
    intro field listed named
    obtain rfl : field.1 = name := by simpa using named
    exact (typed.only _ (List.mem_map_of_mem listed)).elim undeclared uncomputed
  rw [Fields.get?, unlisted, Option.map_none]

/-- What the columns of a condition hold. -/
theorem condition_values (typed : Table.Typed .conditions [] row) :
    ∃ (id groupId metric comparison : String) (threshold : Double) (position : Int),
      row.get? "id" = some (.text id) ∧ row.get? "group_id" = some (.text groupId) ∧
        row.get? "metric" = some (.text metric) ∧ row.get? "operator" = some (.text comparison) ∧
        row.get? "threshold" = some (.float threshold) ∧
        row.get? "sort_order" = some (.int position) ∧ row.get? "order" = none := by
  have declared := conditions_declared
  obtain ⟨_, idGiven, id, rfl⟩ :=
    typed.filled keyColumn (by rw [declared]; decide) (by decide)
  obtain ⟨_, groupGiven, groupId, rfl⟩ := typed.filled
    (parentColumn "group_id" "automation.condition_groups")
    (by rw [declared]; decide) (by decide)
  obtain ⟨_, metricGiven, metric, rfl⟩ := typed.filled
    (filledColumn "metric" .text) (by rw [declared]; decide) (by decide)
  obtain ⟨_, comparisonGiven, comparison, rfl⟩ := typed.filled
    (filledColumn "operator" .text) (by rw [declared]; decide) (by decide)
  obtain ⟨_, thresholdGiven, threshold, rfl⟩ := typed.filled
    (filledColumn "threshold" .double) (by rw [declared]; decide) (by decide)
  obtain ⟨_, positionGiven, position, rfl⟩ := typed.filled
    (filledColumn "sort_order" .integer) (by rw [declared]; decide) (by decide)
  have noOrder : row.get? "order" = none :=
    typed.absent (by rw [declared]; decide) (by decide)
  exact ⟨id, groupId, metric, comparison, threshold, position, idGiven, groupGiven, metricGiven,
    comparisonGiven, thresholdGiven, positionGiven, noOrder⟩

end Table.Typed

variable {row : Fields}

/-- A row of conditions is read as the condition in it, sound or not. -/
theorem stored_condition_typed (typed : Table.Typed .conditions [] row) :
    ∃ stored, StoredCondition.ofRow row = .ok stored ∧ stored.condition = conditionFrom row := by
  obtain ⟨id, groupId, metric, comparison, threshold, position, idGiven, groupGiven, metricGiven,
    comparisonGiven, thresholdGiven, positionGiven, noOrder⟩ := typed.condition_values
  have ordered : StoredCondition.orderOf row = row.getD "sort_order" := by
    rw [order_shown noOrder positionGiven, Fields.getD_given positionGiven]
  have kept : StoredCondition.keep row = .ok (.damaged (conditionFrom row)) := by
    rw [StoredCondition.keep, Fields.getD_given idGiven, if_pos (Value.text_writable id), ordered]
    rfl
  have thresholdRead : storedThreshold? (.float threshold) = .ok (some threshold) := rfl
  unfold StoredCondition.ofRow
  simp only [metricGiven, comparisonGiven, thresholdGiven, Option.bind_some, Option.map_some,
    thresholdRead, kept]
  cases metricRead : Vocabulary.ofValue? (α := Metric) (.text metric) with
  | none => exact ⟨_, rfl, rfl⟩
  | some known =>
    cases comparisonRead : Vocabulary.ofValue? (α := Comparison) (.text comparison) with
    | none => exact ⟨_, rfl, rfl⟩
    | some relation =>
      have metricKnown : Term.read (row.getD "metric") = .known known := by
        rw [Fields.getD_given metricGiven, Term.read, metricRead]
      have comparisonKnown : Term.read (row.getD "operator") = .known relation := by
        rw [Fields.getD_given comparisonGiven, Term.read, comparisonRead]
      have sound : StoredCondition.checked row known relation threshold =
          .valid (conditionFrom row) := by
        rw [StoredCondition.checked, ordered, conditionFrom, metricKnown, comparisonKnown,
          Fields.getD_given idGiven, Fields.getD_given groupGiven, Fields.getD_given thresholdGiven,
          Fields.getD_given positionGiven]
        exact condition_of_fields id groupId known relation threshold position
      simp only [sound]
      exact ⟨_, rfl, rfl⟩

/-- A row of conditions is read under the identifier of its group. -/
theorem condition_row_read (typed : Table.Typed .conditions [] row) :
    conditionOfRow row = .ok (row.getD "group_id", conditionFrom row) := by
  obtain ⟨stored, read, same⟩ := stored_condition_typed typed
  obtain ⟨_, groupId, _, _, _, _, _, groupGiven, _⟩ := typed.condition_values
  have group : (conditionFrom row).groupId = .text groupId := Fields.getD_given groupGiven
  simp only [conditionOfRow, read, bind, Except.bind, same, group, nameable, pure, Except.pure,
    Fields.getD_given groupGiven]

/-- Where a word is not known, the value that was read is kept; otherwise it is its word. -/
theorem term_value {α : Type} [Vocabulary α] [Vocabulary.Lawful α] (stored : Value) :
    (Term.read (α := α) stored).toValue = stored := by
  cases read : Term.read (α := α) stored with
  | known member => exact ((Vocabulary.read_known_iff stored member).mp read).symm
  | unrecognised kept =>
    unfold Term.read at read
    split at read
    · cases read
    · cases read
      rfl

/-- A condition has what its row has in every column, whether it is known or not. -/
theorem condition_verbatim (row : Fields) :
    conditionRow (conditionFrom row) =
      (Table.columns .conditions).map fun column => (column, .given (row.getD column)) := by
  rw [conditions_columns, conditionRow, conditionFrom, term_value, term_value]
  rfl

/-! ## Groups -/

/-- The group in a row, with some conditions. -/
def groupFrom (conditions : List Condition) (row : Fields) : ConditionGroup :=
  ⟨row.text? "id", row.text? "rule_id", Term.read (row.getD "operator"),
    (row.int? "sort_order").getD 0, conditions⟩

/-- What the columns of a group hold. -/
theorem Table.Typed.group_values (typed : Table.Typed .groups [] row) :
    ∃ (id ruleId junction : String) (position : Int),
      row.get? "id" = some (.text id) ∧ row.get? "rule_id" = some (.text ruleId) ∧
        row.get? "operator" = some (.text junction) ∧
        row.get? "sort_order" = some (.int position) := by
  have declared := groups_declared
  obtain ⟨_, idGiven, id, rfl⟩ :=
    typed.filled keyColumn (by rw [declared]; decide) (by decide)
  obtain ⟨_, ruleGiven, ruleId, rfl⟩ := typed.filled
    (parentColumn "rule_id" "automation.automation_rules")
    (by rw [declared]; decide) (by decide)
  obtain ⟨_, junctionGiven, junction, rfl⟩ := typed.filled
    (filledColumn "operator" .text) (by rw [declared]; decide) (by decide)
  obtain ⟨_, positionGiven, position, rfl⟩ := typed.filled
    (filledColumn "sort_order" .integer) (by rw [declared]; decide) (by decide)
  exact ⟨id, ruleId, junction, position, idGiven, ruleGiven, junctionGiven, positionGiven⟩

/-- A row of groups is read under the identifier of its rule, with the conditions under its own. -/
theorem group_row_read (conditions : List (Value × Condition))
    (typed : Table.Typed .groups [] row) :
    groupOfRow conditions row =
      .ok (row.getD "rule_id", groupFrom (entriesUnder (row.getD "id") conditions) row) := by
  obtain ⟨id, ruleId, junction, position, idGiven, ruleGiven, junctionGiven, positionGiven⟩ :=
    typed.group_values
  have checked : ConditionGroup.ofFieldsWith
      (fun _ => .valid (entriesUnder (.text id) conditions))
      [("id", .text id), ("rule_id", .text ruleId), ("operator", .text junction),
        ("order", .int position), ("conditions", .null)] =
      .valid ⟨some id, some ruleId, Term.read (.text junction), position,
        entriesUnder (.text id) conditions⟩ := by
    have junctionRead (label : String) :
        Term.check (α := Junction) label (.text junction) = .valid (Term.read (.text junction)) :=
      rfl
    unfold ConditionGroup.ofFieldsWith
    rw [optional_given rfl (nullable_text (some id)),
      optional_given rfl (nullable_text (some ruleId)), optional_given rfl (junctionRead _)]
    rfl
  unfold groupOfRow groupFrom
  simp only [column, ruleGiven, idGiven, junctionGiven, positionGiven, bind, Except.bind, nameable,
    checked, sound, pure, Except.pure, Fields.text?, Fields.int?, Fields.getD_given idGiven,
    Fields.getD_given ruleGiven, Fields.getD_given junctionGiven, Fields.getD_given positionGiven,
    Option.getD_some]

/-- A group has what its row has in every column. -/
theorem group_verbatim (conditions : List Condition) (typed : Table.Typed .groups [] row) :
    groupRow (groupFrom conditions row) =
      (Table.columns .groups).map fun column => (column, .given (row.getD column)) := by
  obtain ⟨id, ruleId, junction, position, idGiven, ruleGiven, junctionGiven, positionGiven⟩ :=
    typed.group_values
  rw [groups_columns, groupRow, groupFrom, term_value]
  simp only [Fields.text?, Fields.int?, Fields.getD_given idGiven, Fields.getD_given ruleGiven,
    Fields.getD_given positionGiven, List.map_cons, List.map_nil, Option.getD_some, Value.ofText?]

/-! ## Rules -/

/-- A rule with other groups. -/
def withGroups (groups : List ConditionGroup) (rule : Rule) : Rule := { rule with groups := groups }

/-- The rule in a row, with some groups, if the row is valid as a rule. -/
def ruleFrom? (setting : Setting) (groups : List ConditionGroup) (row : Fields) : Option Rule :=
  (Rule.check setting (.record row)).value?.map (withGroups groups)

/-- The names of the fields of a rule that are columns of its row. -/
def ruleColumns : List String :=
  ["name", "description", "action", "action_value", "id", "is_active", "trigger_count",
    "last_triggered", "created_by", "created_at", "updated_at"]

/-- A required field is checked alike in records that agree in it. -/
theorem required_same {α : Type} {fields others : Fields} {name : String} {value : Value}
    (check : Value → Checked α) (given : fields.get? name = some value)
    (same : others.get? name = some value) :
    Checked.required fields name check = Checked.required others name check := by
  rw [Checked.required, Checked.required, given, same]

/-- An optional field is checked alike in records that agree in it, or both lack it. -/
theorem optional_same {α : Type} {fields others : Fields} {name : String} (default : α)
    (check : Value → Checked α) (same : fields.get? name = others.get? name) :
    Checked.optional fields name default check = Checked.optional others name default check := by
  rw [Checked.optional, Checked.optional, same]

/-- The groups do not matter for the other parts of a rule. -/
theorem rule_with_groups {parts : Checked (List ConditionGroup → Option Int → Rule)}
    {count : Checked (Option Int)} {groups : List ConditionGroup}
    (apart : ∀ make, parts = .valid make → ∀ count,
      make groups count = withGroups groups (make [] count)) :
    parts <*> .valid groups <*> count = withGroups groups <$> (parts <*> .valid [] <*> count) := by
  cases parts with
  | invalid issues => cases count <;> rfl
  | valid make =>
    cases count with
    | invalid issues => rfl
    | valid count => exact congrArg Checked.valid (apart make rfl count)

/-- Two records that agree in all fields but the groups are valid as the same rule but for these. -/
theorem rule_of_same_fields (setting : Setting) (groups : List ConditionGroup)
    {fields others : Fields}
    (same : ∀ name ∈ ruleColumns, ∃ value, fields.get? name = some value ∧
      others.get? name = some value)
    (grouped : fields.get? "condition_groups" = some .null)
    (ungrouped : others.get? "condition_groups" = none)
    (counted : Checked.optional fields "action_log_count" none (Checked.nullable Check.int) =
      Checked.optional others "action_log_count" none (Checked.nullable Check.int)) :
    Rule.ofFieldsWith (fun _ => .valid groups) fields =
      withGroups groups <$> Rule.ofFields setting others := by
  have required {α : Type} (name : String) (listed : name ∈ ruleColumns)
      (check : Value → Checked α) :
      Checked.required fields name check = Checked.required others name check := by
    obtain ⟨value, given, given'⟩ := same name listed
    exact required_same check given given'
  have optional {α : Type} (name : String) (listed : name ∈ ruleColumns) (default : α)
      (check : Value → Checked α) :
      Checked.optional fields name default check = Checked.optional others name default check := by
    obtain ⟨value, given, given'⟩ := same name listed
    exact optional_same default check (given.trans given'.symm)
  have someGroups : Checked.optional fields "condition_groups" []
      (fun _ => Checked.valid groups) = .valid groups := by
    rw [Checked.optional, grouped]
    rfl
  have noGroups : Checked.optional others "condition_groups" []
      (Checked.items (ConditionGroup.check setting)) = .valid [] := by
    rw [Checked.optional, ungrouped]
  unfold Rule.ofFields Rule.ofFieldsWith
  rw [someGroups, noGroups, counted, required "name" (by decide), required "action" (by decide),
    required "id" (by decide), optional "description" (by decide),
    optional "action_value" (by decide), optional "is_active" (by decide),
    optional "trigger_count" (by decide), optional "last_triggered" (by decide),
    optional "created_by" (by decide), optional "created_at" (by decide),
    optional "updated_at" (by decide)]
  refine rule_with_groups fun make valid count => ?_
  obtain ⟨_, updatedAt, upToCreated, _, rfl⟩ := Checked.seq_valid.mp valid
  obtain ⟨_, createdAt, upToOwner, _, rfl⟩ := Checked.seq_valid.mp upToCreated
  obtain ⟨_, createdBy, upToTriggered, _, rfl⟩ := Checked.seq_valid.mp upToOwner
  obtain ⟨_, lastTriggered, upToCount, _, rfl⟩ := Checked.seq_valid.mp upToTriggered
  obtain ⟨_, triggerCount, upToActive, _, rfl⟩ := Checked.seq_valid.mp upToCount
  obtain ⟨_, isActive, upToId, _, rfl⟩ := Checked.seq_valid.mp upToActive
  obtain ⟨_, id, upToValue, _, rfl⟩ := Checked.seq_valid.mp upToId
  obtain ⟨_, actionValue, upToAction, _, rfl⟩ := Checked.seq_valid.mp upToValue
  obtain ⟨_, action, upToDescription, _, rfl⟩ := Checked.seq_valid.mp upToAction
  obtain ⟨_, description, upToName, _, rfl⟩ := Checked.seq_valid.mp upToDescription
  obtain ⟨name, _, rfl⟩ := Checked.map_valid.mp upToName
  rfl

/-- A row of rules has a value in each of its columns. -/
theorem Table.Typed.rule_given {computed : List String} (typed : Table.Typed .rules computed row)
    {name : String} (listed : name ∈ ruleColumns) : ∃ value, row.get? name = some value := by
  have declared : ∃ column ∈ Table.declared .rules, column.name = name := by
    rw [rules_declared]
    revert name
    decide
  obtain ⟨column, isColumn, rfl⟩ := declared
  obtain ⟨value, given, _⟩ := typed.each column isColumn
  exact ⟨value, given⟩

/-- The fields that a rule is made of: the columns of its row. -/
def ruleFields (row : Fields) : Fields :=
  [("id", row.getD "id"), ("name", row.getD "name"), ("description", row.getD "description"),
    ("action", row.getD "action"), ("action_value", row.getD "action_value"),
    ("is_active", row.getD "is_active"), ("trigger_count", row.getD "trigger_count"),
    ("last_triggered", row.getD "last_triggered"), ("created_by", row.getD "created_by"),
    ("created_at", row.getD "created_at"), ("updated_at", row.getD "updated_at"),
    ("condition_groups", .null), ("action_log_count", row.getD "action_log_count")]

/-- Of a typed row the fields of a rule are taken as they are. -/
theorem rule_of_row (groups : List ConditionGroup)
    (typed : Table.Typed .rules ["action_log_count"] row) :
    ruleOfRow groups row =
      sound "AutomationRule" (Rule.ofFieldsWith (fun _ => .valid groups) (ruleFields row)) := by
  have given : ∀ name ∈ ruleColumns, column row name = .ok (row.getD name) := by
    intro name listed
    obtain ⟨value, given⟩ := typed.rule_given listed
    rw [column, given, Fields.getD_given given]
  obtain ⟨_, countHeld, count, rfl⟩ := typed.filled (filledColumn "trigger_count" .integer)
    (by rw [rules_declared]; decide) (by decide)
  have countGiven : row.getD "trigger_count" = .int count := Fields.getD_given countHeld
  have counted : (if (row.getD "trigger_count").isEmpty then .int 0
      else row.getD "trigger_count") = row.getD "trigger_count" := by
    rw [countGiven]
    by_cases none : count = 0 <;> simp [none, Value.isEmpty]
  unfold ruleOfRow
  simp only [given "id" (by decide), given "name" (by decide), given "action" (by decide),
    given "is_active" (by decide), bind, Except.bind, counted]
  rfl

/-- A row of rules is read as the rule in it, with the given groups, exactly if it is valid. -/
theorem rule_row_read (setting : Setting) (groups : List ConditionGroup)
    (typed : Table.Typed .rules ["action_log_count"] row) :
    match ruleFrom? setting groups row with
    | some rule => ruleOfRow groups row = .ok rule
    | none => ∃ issues, ruleOfRow groups row = .error (.invalid "AutomationRule" issues) := by
  have same : ∀ name ∈ ruleColumns, ∃ value, (ruleFields row).get? name = some value ∧
      row.get? name = some value := by
    intro name listed
    obtain ⟨value, given⟩ := typed.rule_given listed
    refine ⟨value, ?_, given⟩
    rw [← Fields.getD_given given]
    simp only [ruleColumns, List.mem_cons, List.not_mem_nil, or_false] at listed
    rcases listed with rfl | rfl | rfl | rfl | rfl | rfl | rfl | rfl | rfl | rfl | rfl <;> rfl
  have ungrouped : row.get? "condition_groups" = none :=
    typed.absent (by rw [rules_declared]; decide) (by decide)
  have counted : Checked.optional (ruleFields row) "action_log_count" none
      (Checked.nullable Check.int) =
        Checked.optional row "action_log_count" none (Checked.nullable Check.int) := by
    have placed : (ruleFields row).get? "action_log_count" =
        some (row.getD "action_log_count") := rfl
    rw [Checked.optional, Checked.optional, placed]
    -- A query that counts no logs gives no such column, which is as good as null.
    cases given : row.get? "action_log_count" with
    | none =>
      rw [Fields.getD, given]
      rfl
    | some value => rw [Fields.getD_given given]
  have checked := rule_of_same_fields setting groups same rfl ungrouped counted
  rw [rule_of_row groups typed, checked]
  have valid : Rule.check setting (.record row) = Rule.ofFields setting row := rfl
  rw [ruleFrom?, valid]
  cases Rule.ofFields setting row with
  | valid rule => rfl
  | invalid issues => exact ⟨issues, rfl⟩

end AdRules.Database

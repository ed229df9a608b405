import AdRules.Proofs.Tables

/-!
# What an UPDATE assigns

The text of a change of a rule is put together from the fields that are given, and the list of its
parameters beside it. Here the text is read again: the columns that it assigns and the one by which
it chooses rows, each with what is bound to its placeholder. A placeholder without a parameter, or
bound to the parameter of another column, would show.
-/

namespace AdRules

/-- Null stands for nothing. -/
def Value.isNull : Value → Bool
  | .null => true
  | _ => false

/-- The fields of a record. -/
def Value.fields : Value → Fields
  | .record fields => fields
  | _ => []

/-- The fields of a change that are given, apart from the groups. -/
def RuleChange.given (change : RuleChange) : Fields :=
  change.toValue.fields.filter fun field => field.1 != "condition_groups" && !field.2.isNull

end AdRules

namespace AdRules.Database

/-! ## Reading statements -/

/-- What a statement assigns to the columns of the rows that it chooses by the value of a column. -/
structure Assignment where
  table : String
  assigned : Row
  chosen : Row

/-- Columns, each with what is set equal to it. -/
def equations : List String → Option (List (String × String))
  | [] => some []
  | column :: "=" :: slot :: rest => (equations rest).map ((column, slot) :: ·)
  | _ => none

/-- The cells of some equations when parameters are bound to their placeholders, in order. -/
def bound (equations : List (String × String)) (parameters : List Parameter) : Option Row :=
  (cells (equations.map (·.2)) parameters).map fun cells => (equations.map (·.1)).zip cells

namespace Statement

/-- The assignment that an UPDATE is, as it is read from the text of the statement: its columns and
values, and what chooses the rows. -/
def assignment? (statement : Statement) : Option Assignment :=
  match words statement.text.toList, statement.parameters with
  | "UPDATE" :: table :: "SET" :: rest, some parameters => do
    let assigned ← equations (rest.takeWhile (· != "WHERE"))
    let chosen ← equations ((rest.dropWhile (· != "WHERE")).tail.takeWhile (· != "RETURNING"))
    let row ← bound (assigned ++ chosen) parameters
    pure ⟨table, row.take assigned.length, row.drop assigned.length⟩
  | _, _ => none

/-- The table that a DELETE is for, and the column by which it chooses rows. -/
def deletion? (statement : Statement) : Option (String × Row) :=
  match words statement.text.toList, statement.parameters with
  | "DELETE" :: "FROM" :: table :: "WHERE" :: rest, some parameters => do
    let chosen ← equations rest
    let row ← bound chosen parameters
    pure (table, row)
  | _, _ => none

end Statement

/-! ## Words of texts put together -/

/-- A separator ends the words before it. -/
theorem words_append_cons (first rest : List Char) {letter : Char}
    (separates : [' ', ',', '(', ')'].contains letter = true) :
    words (first ++ letter :: rest) = words first ++ words rest := by
  rw [words, List.splitOnP_append_cons first rest separates, List.filter_append, List.map_append]
  rfl

/-- The words of parts that are joined by commas are those of each part. -/
theorem words_joined (parts : List String) :
    words (", ".intercalate parts).toList = parts.flatMap fun part => words part.toList := by
  induction parts with
  | nil => rfl
  | cons part rest inductionHypothesis =>
    cases rest with
    | nil => simp
    | cons next others =>
      have joined : (", ".intercalate (part :: next :: others)).toList =
          part.toList ++ ',' :: ([] ++ ' ' :: (", ".intercalate (next :: others)).toList) := by
        simp [String.intercalate_cons_cons]
      rw [joined, words_append_cons _ _ (by decide), words_append_cons _ _ (by decide),
        inductionHypothesis, List.flatMap_cons]
      rfl

/-! ## The statement that changes a rule -/

/-- The columns that a change can assign. -/
def changeColumns : List String := ["name", "description", "action", "action_value", "is_active"]

/-- They are single words, and none of those that end a list of assignments. -/
theorem change_column_words : ∀ column ∈ changeColumns,
    words column.toList = [column] ∧ column ≠ "WHERE" := by
  decide +kernel

/-- Only columns that a change can touch are ever assigned. The identifier, the counters and the
moment of creation are not among them. -/
theorem assigned_columns {change : RuleChange} {entry : String × Value}
    (listed : entry ∈ assignments change) : entry.1 ∈ changeColumns := by
  obtain ⟨⟨column, value⟩, inFields, given⟩ := List.mem_filterMap.mp listed
  obtain ⟨_, _, rfl⟩ := Option.map_eq_some_iff.mp given
  have named := List.mem_map_of_mem (f := fun field => field.1) inFields
  exact named

/-- Each assignment is a column that is set equal to a placeholder. -/
theorem assignment_words {change : RuleChange} {entry : String × Value}
    (listed : entry ∈ assignments change) :
    words (entry.1 ++ " = %s").toList = [entry.1, "=", "%s"] := by
  have slot : words "= %s".toList = ["=", "%s"] := by decide +kernel
  have parts : (entry.1 ++ " = %s").toList = entry.1.toList ++ ' ' :: "= %s".toList := by simp
  have columnWord := (change_column_words _ (assigned_columns listed)).1
  rw [parts, words_append_cons _ _ (by decide), columnWord, slot]
  rfl

/-- None of the words of the assignments begins the choice of rows. -/
theorem assignments_before_where {change : RuleChange} {word : String}
    (listed : word ∈ (assignments change).flatMap fun entry => [entry.1, "=", "%s"]) :
    (word != "WHERE") = true := by
  obtain ⟨entry, isAssigned, inEntry⟩ := List.mem_flatMap.mp listed
  have column := (change_column_words _ (assigned_columns isAssigned)).2
  simp only [List.mem_cons, List.not_mem_nil, or_false] at inEntry
  rcases inEntry with rfl | rfl | rfl
  · simpa using column
  · decide
  · decide

/-- The words of the statement that changes a rule, for any change: one equation for each column
that it assigns, and one for the moment of the change. -/
theorem change_words (id : Value) (change : RuleChange) :
    words (Statement.updateRule id change).text.toList =
      ["UPDATE", Table.name .rules, "SET"] ++
        ((assignments change).flatMap (fun entry => [entry.1, "=", "%s"]) ++
          ["updated_at", "=", "CURRENT_TIMESTAMP", "WHERE", "id", "=", "%s", "RETURNING",
            "id"]) := by
  have text : (Statement.updateRule id change).text =
      "UPDATE automation.automation_rules SET " ++
        ", ".intercalate ((assignments change).map (fun entry => entry.1 ++ " = %s") ++
          ["updated_at = CURRENT_TIMESTAMP"]) ++ " WHERE id = %s RETURNING id" := rfl
  have start : "UPDATE automation.automation_rules SET ".toList =
      "UPDATE automation.automation_rules SET".toList ++ [' '] := by
    simp only [String.reduceToList, List.cons_append, List.nil_append]
  have ending : " WHERE id = %s RETURNING id".toList =
      ' ' :: "WHERE id = %s RETURNING id".toList := by
    simp only [String.reduceToList]
  have startWords : words "UPDATE automation.automation_rules SET".toList =
      ["UPDATE", Table.name .rules, "SET"] := by decide +kernel
  have momentWords : words "updated_at = CURRENT_TIMESTAMP".toList =
      ["updated_at", "=", "CURRENT_TIMESTAMP"] := by decide +kernel
  have endingWords : words "WHERE id = %s RETURNING id".toList =
      ["WHERE", "id", "=", "%s", "RETURNING", "id"] := by decide +kernel
  have assignedWords :
      (assignments change).flatMap (fun entry => words (entry.1 ++ " = %s").toList) =
        (assignments change).flatMap fun entry => [entry.1, "=", "%s"] := by
    rw [List.flatMap, List.flatMap, List.map_congr_left fun _ listed => assignment_words listed]
  rw [text, String.toList_append, String.toList_append, start, ending, List.append_assoc,
    List.append_assoc, List.singleton_append, words_append_cons _ _ (by decide),
    words_append_cons _ _ (by decide), words_joined, List.flatMap_append, List.flatMap_map,
    assignedWords, startWords, endingWords]
  simp only [List.flatMap_cons, List.flatMap_nil, momentWords, List.append_assoc]
  rfl

/-- Equations with placeholders come before the others. -/
theorem equations_assigned (entries : List (String × Value)) (rest : List String) :
    equations (entries.flatMap (fun entry => [entry.1, "=", "%s"]) ++ rest) =
      (equations rest).map (entries.map (fun entry => (entry.1, "%s")) ++ ·) := by
  induction entries with
  | nil => simp
  | cons entry others inductionHypothesis =>
    simp only [List.flatMap_cons, List.cons_append, List.nil_append, equations,
      inductionHypothesis, Option.map_map, List.map_cons]
    rfl

/-- Placeholders take the first parameters, in order. -/
theorem cells_assigned (entries : List (String × Value)) (slots : List String)
    (parameters : List Parameter) :
    cells (entries.map (fun _ => "%s") ++ slots)
        (entries.map (fun entry => .value entry.2) ++ parameters) =
      (cells slots parameters).map (entries.map (fun entry => .given entry.2) ++ ·) := by
  induction entries with
  | nil => simp
  | cons entry others inductionHypothesis =>
    simp only [List.map_cons, List.cons_append, cells, inductionHypothesis, Option.map_map]
    rfl

/-- The fields that are given, apart from the groups, are those that the statement assigns. -/
theorem assignments_given (change : RuleChange) : assignments change = change.given := by
  obtain ⟨name, description, action, actionValue, isActive, groups⟩ := change
  cases name <;> cases description <;> cases action <;> cases actionValue <;> cases isActive <;>
    cases groups <;> rfl

/-- The columns of some entries are bound to their values, and those after them to the rest. -/
theorem bound_assigned (entries : List (String × Value)) (others : List (String × String))
    (parameters : List Parameter) :
    bound (entries.map (fun entry => (entry.1, "%s")) ++ others)
        (entries.map (fun entry => .value entry.2) ++ parameters) =
      (bound others parameters).map
        (entries.map (fun entry => (entry.1, .given entry.2)) ++ ·) := by
  have slots : (entries.map (fun entry => (entry.1, "%s")) ++ others).map (·.2) =
      entries.map (fun _ => "%s") ++ others.map (·.2) := by
    rw [List.map_append, List.map_map]
    rfl
  have columns : (entries.map (fun entry => (entry.1, "%s")) ++ others).map (·.1) =
      entries.map (·.1) ++ others.map (·.1) := by
    rw [List.map_append, List.map_map]
    rfl
  rw [bound, bound, slots, columns, cells_assigned, Option.map_map, Option.map_map]
  congr 1
  funext later
  rw [Function.comp_apply, Function.comp_apply, List.zip_append (by simp), List.zip_map']

/-- The statement that changes a rule assigns every given field its value and the moment to the date
of the last change, and chooses the rule by its identifier. -/
theorem change_assignment (id : Value) (change : RuleChange) :
    (Statement.updateRule id change).assignment? =
      some ⟨Table.name .rules,
        change.given.map (fun field => (field.1, .given field.2)) ++ [("updated_at", .moment)],
        [("id", .given id)]⟩ := by
  have parameters : (Statement.updateRule id change).parameters =
      some ((assignments change).map (fun entry => .value entry.2) ++ [.value id]) := by
    simp [Statement.parameters, Statement.values]
  have assigned : equations ((assignments change).flatMap (fun entry => [entry.1, "=", "%s"]) ++
      ["updated_at", "=", "CURRENT_TIMESTAMP"]) =
        some ((assignments change).map (fun entry => (entry.1, "%s")) ++
          [("updated_at", "CURRENT_TIMESTAMP")]) :=
    equations_assigned _ _
  have rows : bound ((assignments change).map (fun entry => (entry.1, "%s")) ++
      [("updated_at", "CURRENT_TIMESTAMP")] ++ [("id", "%s")])
        ((assignments change).map (fun entry => .value entry.2) ++ [.value id]) =
      some ((assignments change).map (fun entry => (entry.1, .given entry.2)) ++
        [("updated_at", .moment)] ++ [("id", .given id)]) := by
    rw [List.append_assoc, List.append_assoc]
    exact bound_assigned _ _ _
  have lengths : ((assignments change).map (fun entry => (entry.1, .given entry.2)) ++
      [("updated_at", .moment)] : Row).length =
        ((assignments change).map (fun entry => (entry.1, "%s")) ++
          [("updated_at", "CURRENT_TIMESTAMP")]).length := by simp
  have chosen : equations ["id", "=", "%s"] = some [("id", "%s")] := rfl
  have upToWhere : ["updated_at", "=", "CURRENT_TIMESTAMP", "WHERE", "id", "=", "%s", "RETURNING",
      "id"].takeWhile (· != "WHERE") = ["updated_at", "=", "CURRENT_TIMESTAMP"] := rfl
  have fromWhere : (["updated_at", "=", "CURRENT_TIMESTAMP", "WHERE", "id", "=", "%s", "RETURNING",
      "id"].dropWhile (· != "WHERE")).tail.takeWhile (· != "RETURNING") = ["id", "=", "%s"] := rfl
  unfold Statement.assignment?
  rw [change_words, parameters, ← assignments_given]
  simp only [List.cons_append, List.nil_append]
  rw [List.takeWhile_append_of_pos fun _ => assignments_before_where,
    List.dropWhile_append_of_pos fun _ => assignments_before_where, upToWhere, fromWhere, assigned,
    chosen]
  simp only [Option.bind_eq_bind, Option.bind_some, rows]
  rw [List.take_left' lengths, List.drop_left' lengths]
  rfl

/-- The statement that removes the groups of a rule chooses them by the identifier of the rule. -/
theorem groups_deletion (id : Value) :
    (Statement.deleteGroups id).deletion? =
      some (Table.name .groups, [("rule_id", .given id)]) := by
  have textWords : words (Statement.deleteGroups id).text.toList =
      ["DELETE", "FROM", Table.name .groups, "WHERE", "rule_id", "=", "%s"] := by
    have text : (Statement.deleteGroups id).text =
        "DELETE FROM automation.condition_groups WHERE rule_id = %s" := rfl
    rw [text]
    decide +kernel
  rw [Statement.deletion?, textWords]
  rfl

end AdRules.Database

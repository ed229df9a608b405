import AdRules.Proofs.CreatedRules
import AdRules.Proofs.TypedRows

/-!
# Rules loaded from rows

The rows of many rules are fetched in three flat lists and put together by identifiers. What comes
of them is said here without any dictionary: a valid row of rules becomes a rule, whose groups are
in the rows with its identifier and whose conditions are in the rows with theirs, each in the order
of the rows. Nothing else is looked at, so a row that is not valid disturbs no other.
-/

namespace AdRules.Database

/-! ## What rows amount to -/

/-- The rows with a text in a column. -/
def rowsUnder (name : String) (key : Option String) (rows : List Fields) : List Fields :=
  rows.filter fun row => row.text? name == key

/-- The rows without it. -/
def otherRows (name : String) (key : Option String) (rows : List Fields) : List Fields :=
  rows.filter fun row => row.text? name != key

/-- The conditions in the rows of a group, in order. -/
def conditionsUnder (conditions : List Fields) (group : Fields) : List Condition :=
  (rowsUnder "group_id" (group.text? "id") conditions).map conditionFrom

/-- The groups in the rows of a rule, in order. -/
def groupsUnder (groups conditions : List Fields) (rule : Fields) : List ConditionGroup :=
  (rowsUnder "rule_id" (rule.text? "id") groups).map fun group =>
    groupFrom (conditionsUnder conditions group) group

/-- The rules in the valid ones among some rows, in order. An invalid row is passed over and changes
nothing of the others. -/
def rulesFrom (setting : Setting) (rules groups conditions : List Fields) : List Rule :=
  rules.filterMap fun rule => ruleFrom? setting (groupsUnder groups conditions rule) rule

/-! ## Rows under a name -/

/-- The entries under a text are those of the rows that have it in the column that names them. -/
theorem entries_of_rows {α : Type} {name : String} {rows : List Fields}
    (texts : ∀ row ∈ rows, ∃ content, row.getD name = .text content) (entry : Fields → α)
    (key : String) :
    entriesUnder (.text key) (rows.map fun row => (row.getD name, entry row)) =
      (rowsUnder name (some key) rows).map entry := by
  induction rows with
  | nil => rfl
  | cons row rest inductionHypothesis =>
    obtain ⟨content, given⟩ := texts row List.mem_cons_self
    have others := inductionHypothesis fun other later =>
      texts other (List.mem_cons_of_mem row later)
    have named : (row.getD name).sameName (.text key) = (row.text? name == some key) := by
      rw [Fields.text?, given, Value.sameName, Option.some_beq_some]
    simp only [entriesUnder, rowsUnder, List.map_cons, List.filterMap_cons, List.filter_cons]
      at others ⊢
    rw [named]
    by_cases same : (row.text? name == some key) = true
    · simp only [same, if_true, List.map_cons, others]
    · simp only [same, Bool.false_eq_true, if_false, others]

/-- Rows that are read one by one are read together. -/
theorem mapM_rows {α : Type} {read : Fields → Except Failure α} {result : Fields → α}
    {rows : List Fields} (each : ∀ row ∈ rows, read row = .ok (result row)) :
    rows.mapM read = .ok (rows.map result) := by
  induction rows with
  | nil => rfl
  | cons row rest inductionHypothesis =>
    have own := each row List.mem_cons_self
    have others := inductionHypothesis fun other later =>
      each other (List.mem_cons_of_mem row later)
    simp only [List.mapM_cons, own, others, List.map_cons, bind, Except.bind, pure, Except.pure]

section Reading

variable {rules groups conditions : List Fields}

/-- The rows of conditions and groups are read as the groups in them, each under the identifier of
its rule. -/
theorem groups_of_rows (typedGroups : Table.TypedAll .groups [] groups)
    (typedConditions : Table.TypedAll .conditions [] conditions) :
    ∃ entries, conditions.mapM conditionOfRow = .ok entries ∧
      groups.mapM (groupOfRow entries) = .ok (groups.map fun group =>
        (group.getD "rule_id", groupFrom (conditionsUnder conditions group) group)) := by
  have texts : ∀ row ∈ conditions, ∃ content, row.getD "group_id" = .text content := by
    intro row listed
    obtain ⟨_, groupId, _, _, _, _, _, given, _⟩ :=
      (typedConditions.each row listed).condition_values
    exact ⟨groupId, Fields.getD_given given⟩
  refine ⟨_, mapM_rows fun row listed => condition_row_read (typedConditions.each row listed), ?_⟩
  refine mapM_rows fun row listed => ?_
  have typed := typedGroups.each row listed
  obtain ⟨id, _, _, _, idGiven, _⟩ := typed.group_values
  rw [group_row_read _ typed, Fields.getD_given idGiven, entries_of_rows texts]
  simp only [conditionsUnder, Fields.text?, Fields.getD_given idGiven]

/-- The rows of rules are read as the rules in the valid ones. By induction on the rows; an invalid
one is passed over because its identifier is a text, which can always be noted. -/
theorem rules_of_rows (setting : Setting)
    (typedRules : Table.TypedAll .rules ["action_log_count"] rules)
    (typedGroups : Table.TypedAll .groups [] groups) :
    rulesOfRows (groups.map fun group =>
        (group.getD "rule_id", groupFrom (conditionsUnder conditions group) group)) rules =
      .ok (rulesFrom setting rules groups conditions) := by
  have texts : ∀ row ∈ groups, ∃ content, row.getD "rule_id" = .text content := by
    intro row listed
    obtain ⟨_, ruleId, _, _, _, given, _⟩ := (typedGroups.each row listed).group_values
    exact ⟨ruleId, Fields.getD_given given⟩
  have typed := typedRules.each
  clear typedRules
  induction rules with
  | nil => rfl
  | cons row rest inductionHypothesis =>
    have others := inductionHypothesis fun other later =>
      typed other (List.mem_cons_of_mem row later)
    have own := typed row List.mem_cons_self
    obtain ⟨_, keyGiven, id, rfl⟩ :=
      own.filled keyColumn (by rw [rules_declared]; decide) (by decide)
    have idGiven : row.get? "id" = some (.text id) := keyGiven
    have idColumn : column row "id" = .ok (.text id) := by rw [column, idGiven]
    have ownGroups : entriesUnder (.text id) (groups.map fun group =>
        (group.getD "rule_id", groupFrom (conditionsUnder conditions group) group)) =
          groupsUnder groups conditions row := by
      have named : row.text? "id" = some id := by rw [Fields.text?, Fields.getD_given idGiven]
      rw [entries_of_rows texts, groupsUnder, named]
    have read := rule_row_read setting (groupsUnder groups conditions row) own
    rw [rulesOfRows, idColumn]
    simp only [bind, Except.bind, nameable, ownGroups, others, rulesFrom, List.filterMap_cons]
    cases valid : ruleFrom? setting (groupsUnder groups conditions row) row with
    | some rule =>
      rw [valid] at read
      simp only [read]
      rfl
    | none =>
      rw [valid] at read
      obtain ⟨issues, refused⟩ := read
      simp only [refused, Value.text_writable, if_true]

end Reading

/-! ## Loading -/

/-- The server gives some rows for a query. -/
def Server.Gives (server : Server) (trace : List Event) (query : Statement)
    (rows : List Fields) : Prop :=
  ∃ reply, server.execute trace query = .ok reply ∧ reply.rows = .ok rows

/-- What is asked for the groups of some rules and for the conditions of these groups. -/
def childQueries (rules groups : List Fields) : List Event :=
  if rules.isEmpty then []
  else
    .execute (.selectGroups (rules.map (·.getD "id"))) ::
      if groups.isEmpty then [] else [.execute (.selectConditions (groups.map (·.getD "id")))]

/-- What is asked for rules with their groups and conditions. -/
def loading (address : String) (query : Statement) (rules groups : List Fields) : List Event :=
  [.connect address, .execute query] ++ childQueries rules groups ++ [.close]

/-- The server answers a query for rules, and then those for their groups and conditions. -/
structure Server.Loads (server : Server) (address : String) (trace : List Event)
    (query : Statement) (rules groups conditions : List Fields) : Prop where
  opens : server.connect trace = .ok ()
  findsRules : server.Gives (trace ++ [.connect address]) query rules
  findsGroups : rules ≠ [] → server.Gives (trace ++ [.connect address, .execute query])
    (.selectGroups (rules.map (·.getD "id"))) groups
  findsConditions : rules ≠ [] → groups ≠ [] → server.Gives
    (trace ++ [.connect address, .execute query,
      .execute (.selectGroups (rules.map (·.getD "id")))])
    (.selectConditions (groups.map (·.getD "id"))) conditions

section Loading

variable {rules groups conditions : List Fields}

/-- The identifiers of rows that have one. -/
theorem ids_of_keyed {rows : List Fields}
    (keyed : ∀ row ∈ rows, ∃ value, row.get? "id" = some value) :
    rows.mapM (column · "id") = .ok (rows.map (·.getD "id")) := by
  refine mapM_rows fun row listed => ?_
  obtain ⟨value, given⟩ := keyed row listed
  rw [column, given, Fields.getD_given given]

/-- In typed rows of a table with a key every row has an identifier, so collecting them cannot fail.
-/
theorem ids_of_rows {table : Table} {computed : List String} {rows : List Fields}
    (keyed : keyColumn ∈ table.declared) (typed : table.TypedAll computed rows) :
    rows.mapM (column · "id") = .ok (rows.map (·.getD "id")) := by
  refine ids_of_keyed fun row listed => ?_
  obtain ⟨value, given, _⟩ := (typed.each row listed).each keyColumn keyed
  exact ⟨value, given⟩

/-- The rows that answer a query are fetched. -/
theorem Server.Gives.rows_apply {link : Link} {events : List Event} {query : Statement}
    {rows : List Fields} (gives : link.server.Gives (link.trace ++ events) query rows) :
    rowsOf query (link.after events link.issued) =
      .ok rows (link.after (events ++ [.execute query]) link.issued) := by
  obtain ⟨reply, answered, given⟩ := gives
  have fetched : rowsOf query (link.after events link.issued) = .ok rows _ :=
    rows_of_apply answered given
  rwa [Link.after_after] at fetched

/-- The rows of conditions are read before those of their groups, each list as a whole. -/
theorem groups_read {link between after : Link} {ids : List Value} (someIds : ids ≠ [])
    (someGroups : groups ≠ [])
    (groupsGiven : rowsOf (.selectGroups ids) link = .ok groups between)
    (keyed : groups.mapM (column · "id") = .ok (groups.map (·.getD "id")))
    (conditionsGiven : rowsOf (.selectConditions (groups.map (·.getD "id"))) between =
      .ok conditions after) :
    groupsOf ids link =
      Act.ofExcept (conditions.mapM conditionOfRow >>= fun entries =>
        groups.mapM (groupOfRow entries)) after := by
  have idsFilled : ids.isEmpty = false := by simpa using someIds
  have groupIdsFilled : (groups.map (·.getD "id")).isEmpty = false := by simpa using someGroups
  unfold groupsOf
  simp only [idsFilled, groupIdsFilled, Bool.false_eq_true, if_false, Act.bind_apply, groupsGiven,
    keyed, Act.ofExcept, Act.pure_apply, conditionsGiven]
  cases conditions.mapM conditionOfRow <;> rfl

/-- The rows of rules are read once the connection is closed, unless their groups could not be. -/
theorem rules_read {address : String} {query : Statement} {link between after : Link}
    {ids : List Value} {outcome : Except Failure (List (Value × ConditionGroup))}
    (opens : link.server.connect link.trace = .ok ())
    (rulesGiven : rowsOf query (link.after [.connect address] link.issued) = .ok rules between)
    (keyed : rules.mapM (column · "id") = .ok ids)
    (groupsRead : groupsOf ids between = Act.ofExcept outcome after) :
    rulesOf address query link =
      Act.ofExcept (outcome >>= fun entries => rulesOfRows entries rules)
        (after.after [.close] after.issued) := by
  have used : (do
      let rows ← rowsOf query
      let groups ← groupsOf (← Act.ofExcept (rows.mapM (column · "id")))
      pure (rows, groups) : Act Link (List Fields × List (Value × ConditionGroup)))
        (link.after [.connect address] link.issued) =
      Act.ofExcept ((rules, ·) <$> outcome) after := by
    simp only [Act.bind_apply, rulesGiven, keyed, Act.ofExcept, Act.pure_apply, groupsRead]
    cases outcome <;> rfl
  cases outcome with
  | error failure =>
    rw [rulesOf, Act.bind_apply, connected_failed opens used]
    rfl
  | ok entries =>
    rw [rulesOf, Act.bind_apply, connected_apply opens used]
    rfl

/-- The groups of fetched rules are fetched with their conditions, by two more queries over the same
connection. Of the rows only the types of their columns are assumed. -/
theorem groups_fetched {address : String} {query : Statement} {link : Link}
    (typedGroups : Table.TypedAll .groups [] groups)
    (typedConditions : Table.TypedAll .conditions [] conditions)
    (loads : link.server.Loads address link.trace query rules groups conditions)
    (someRules : rules ≠ []) :
    groupsOf (rules.map (·.getD "id"))
        (link.after [.connect address, .execute query] link.issued) =
      .ok (groups.map fun group =>
          (group.getD "rule_id", groupFrom (conditionsUnder conditions group) group))
        (link.after ([.connect address, .execute query] ++ childQueries rules groups)
          link.issued) := by
  have groupsGiven := (loads.findsGroups someRules).rows_apply
  have idsGiven := ids_of_rows (by rw [groups_declared]; decide) typedGroups
  have rulesFilled : rules.isEmpty = false := by simpa using someRules
  have someIds : rules.map (·.getD "id") ≠ [] := by simpa using someRules
  unfold childQueries
  rw [rulesFilled]
  by_cases someGroups : groups = []
  · subst someGroups
    have idsFilled : (rules.map (·.getD "id")).isEmpty = false := by simpa using someIds
    simp only [groupsOf, idsFilled, Bool.false_eq_true, if_false, Act.bind_apply, groupsGiven]
    rfl
  · obtain ⟨entries, conditionsRead, groupsRead⟩ := groups_of_rows typedGroups typedConditions
    have conditionsGiven := (loads.findsConditions someRules someGroups).rows_apply
    have groupsFilled : groups.isEmpty = false := by simpa using someGroups
    rw [groups_read someIds someGroups groupsGiven idsGiven conditionsGiven, conditionsRead,
      groupsFilled]
    exact congrArg (Act.ofExcept · _) groupsRead

/-- Rows that are fetched become the rules in them, in any order of the rows and however the groups
of different rules are mixed. -/
theorem rules_of_run (setting : Setting) {address : String} {query : Statement} {link : Link}
    (typedRules : Table.TypedAll .rules ["action_log_count"] rules)
    (typedGroups : Table.TypedAll .groups [] groups)
    (typedConditions : Table.TypedAll .conditions [] conditions)
    (loads : link.server.Loads address link.trace query rules groups conditions) :
    rulesOf address query link = .ok (rulesFrom setting rules groups conditions)
      (link.after (loading address query rules groups) link.issued) := by
  have idsGiven := ids_of_rows (by rw [rules_declared]; decide) typedRules
  have rulesGiven := loads.findsRules.rows_apply
  obtain ⟨entries, groupsGiven, rulesRead⟩ : ∃ entries,
      groupsOf (rules.map (·.getD "id"))
          (link.after ([.connect address] ++ [.execute query]) link.issued) =
        Act.ofExcept (.ok entries)
          (link.after ([.connect address, .execute query] ++ childQueries rules groups)
            link.issued) ∧
        rulesOfRows entries rules = .ok (rulesFrom setting rules groups conditions) := by
    by_cases someRules : rules = []
    · subst someRules
      exact ⟨[], rfl, rfl⟩
    · exact ⟨_, groups_fetched typedGroups typedConditions loads someRules,
        rules_of_rows setting typedRules typedGroups⟩
  have loaded := rules_read loads.opens rulesGiven idsGiven groupsGiven
  rw [Link.after_after] at loaded
  exact loaded.trans (congrArg (Act.ofExcept · _) rulesRead)

end Loading

/-! ## Rows that are not valid -/

/-- The conditions that belong to no group of a rule. -/
def otherConditions (rule : Fields) (groups conditions : List Fields) : List Fields :=
  conditions.filter fun condition =>
    !(rowsUnder "rule_id" (rule.text? "id") groups).any fun group =>
      group.text? "id" == condition.text? "group_id"

section Invalid

variable {rules groups conditions : List Fields} {rule : Fields}

/-- Rows of a table with the same key are the same. -/
theorem row_of_key {table : Table} {computed : List String} {rows : List Fields}
    (keyed : keyColumn ∈ table.declared) (typed : table.TypedAll computed rows)
    {first second : Fields} (inFirst : first ∈ rows) (inSecond : second ∈ rows)
    (same : first.text? "id" = second.text? "id") : first = second := by
  have distinct : (rows.map (·.getD "id")).Nodup := typed.unique keyColumn keyed (by decide)
  obtain ⟨_, firstGiven, firstId, rfl⟩ :=
    (typed.each first inFirst).filled keyColumn keyed (by decide)
  obtain ⟨_, secondGiven, secondId, rfl⟩ :=
    (typed.each second inSecond).filled keyColumn keyed (by decide)
  have firstHolds : first.getD "id" = .text firstId := Fields.getD_given firstGiven
  have secondHolds : second.getD "id" = .text secondId := Fields.getD_given secondGiven
  have sameId : firstId = secondId := by
    simpa [Fields.text?, firstHolds, secondHolds] using same
  exact List.inj_on_of_nodup_map distinct inFirst inSecond
    (firstHolds.trans ((congrArg Value.text sameId).trans secondHolds.symm))

/-- Leaving out the rows with one text does not change those with another. -/
theorem rows_under_other {name : String} {key other : Option String} (apart : key ≠ other)
    (rows : List Fields) :
    rowsUnder name key (otherRows name other rows) = rowsUnder name key rows := by
  rw [rowsUnder, otherRows, List.filter_filter]
  refine List.filter_congr fun row _ => ?_
  by_cases named : row.text? name = key
  · simp [named, apart]
  · simp [named]

/-- A group of another rule keeps its conditions. -/
theorem conditions_under_other (typedGroups : Table.TypedAll .groups [] groups) {group : Fields}
    (listed : group ∈ groups) (apart : group.text? "rule_id" ≠ rule.text? "id") :
    conditionsUnder (otherConditions rule groups conditions) group =
      conditionsUnder conditions group := by
  have kept : rowsUnder "group_id" (group.text? "id") (otherConditions rule groups conditions) =
      rowsUnder "group_id" (group.text? "id") conditions := by
    rw [rowsUnder, otherConditions, List.filter_filter]
    refine List.filter_congr fun condition _ => ?_
    by_cases owned : condition.text? "group_id" = group.text? "id"
    · have unshared : (rowsUnder "rule_id" (rule.text? "id") groups).any (fun other =>
          other.text? "id" == condition.text? "group_id") = false := by
        rw [List.any_eq_false]
        intro other under named
        obtain ⟨inGroups, ofRule⟩ := List.mem_filter.mp under
        have sameId : other.text? "id" = group.text? "id" := (beq_iff_eq.mp named).trans owned
        have sameRow : other = group :=
          row_of_key (by rw [groups_declared]; decide) typedGroups inGroups listed sameId
        exact apart (sameRow ▸ beq_iff_eq.mp ofRule)
      rw [unshared]
      simp
    · simp [owned]
  rw [conditionsUnder, conditionsUnder, kept]

/-- Another rule keeps its groups. -/
theorem groups_under_other (typedGroups : Table.TypedAll .groups [] groups) {other : Fields}
    (apart : other.text? "id" ≠ rule.text? "id") :
    groupsUnder (otherRows "rule_id" (rule.text? "id") groups)
        (otherConditions rule groups conditions) other =
      groupsUnder groups conditions other := by
  rw [groupsUnder, groupsUnder, rows_under_other apart]
  refine List.map_congr_left fun group under => ?_
  obtain ⟨listed, ofOther⟩ := List.mem_filter.mp under
  have ofNeither : group.text? "rule_id" ≠ rule.text? "id" := by
    rw [beq_iff_eq.mp ofOther]
    exact apart
  rw [conditions_under_other typedGroups listed ofNeither]

/-- What is loaded does not change when a row of rules that is not valid is left out together with
its groups and their conditions. -/
theorem invalid_row_apart (setting : Setting)
    (typedRules : Table.TypedAll .rules ["action_log_count"] rules)
    (typedGroups : Table.TypedAll .groups [] groups) (listed : rule ∈ rules)
    (invalid : (Rule.check setting (.record rule)).value? = none) :
    rulesFrom setting (otherRows "id" (rule.text? "id") rules)
        (otherRows "rule_id" (rule.text? "id") groups) (otherConditions rule groups conditions) =
      rulesFrom setting rules groups conditions := by
  have left : otherRows "id" (rule.text? "id") rules =
      rules.filter fun row => row.text? "id" != rule.text? "id" := rfl
  rw [rulesFrom, rulesFrom, left, List.filterMap_filter]
  refine List.filterMap_congr fun row inRules => ?_
  by_cases same : row.text? "id" = rule.text? "id"
  · obtain rfl : row = rule :=
      row_of_key (by rw [rules_declared]; decide) typedRules inRules listed same
    simp [ruleFrom?, invalid]
  · simp [same, groups_under_other typedGroups same]

end Invalid

/-! ## Every load -/

/-- Rows that meet the schema are loaded, for all rules or for the active ones, as the rules in the
valid rows of rules, in order, each with the groups in the rows with its identifier and these with
the conditions in the rows with theirs. Groups and conditions have in every column what their rows
have, also where a junction, a metric or a comparison is not known. A row of rules that is not valid
is passed over, and without it, its groups and their conditions the same rules are loaded. -/
theorem rules_loaded_exactly [IdSupply] (address : String) (link : Link) (setting : Setting)
    {rules groups conditions : List Fields}
    (typedRules : Table.TypedAll .rules ["action_log_count"] rules)
    (typedGroups : Table.TypedAll .groups [] groups)
    (typedConditions : Table.TypedAll .conditions [] conditions) :
    (link.server.Loads address link.trace .selectRules rules groups conditions →
      (repository address).rules link = .ok (rulesFrom setting rules groups conditions)
        (link.after (loading address .selectRules rules groups) link.issued)) ∧
      (link.server.Loads address link.trace .selectActiveRules rules groups conditions →
        (repository address).activeRules link = .ok (rulesFrom setting rules groups conditions)
          (link.after (loading address .selectActiveRules rules groups) link.issued)) ∧
      (∀ condition ∈ conditions, conditionRow (conditionFrom condition) =
        (Table.columns .conditions).map fun column => (column, .given (condition.getD column))) ∧
      (∀ group ∈ groups, ∀ members, groupRow (groupFrom members group) =
        (Table.columns .groups).map fun column => (column, .given (group.getD column))) ∧
      ∀ rule ∈ rules, (Rule.check setting (.record rule)).value? = none →
        rulesFrom setting (otherRows "id" (rule.text? "id") rules)
            (otherRows "rule_id" (rule.text? "id") groups)
            (otherConditions rule groups conditions) =
          rulesFrom setting rules groups conditions := by
  refine ⟨?_, ?_, ?_, ?_, ?_⟩
  · exact rules_of_run setting typedRules typedGroups typedConditions
  · exact rules_of_run setting typedRules typedGroups typedConditions
  · exact fun condition _ => condition_verbatim condition
  · exact fun group listed members => group_verbatim members (typedGroups.each group listed)
  · exact fun rule listed => invalid_row_apart setting typedRules typedGroups listed

/-- A stored row of a rule that sends notifications. -/
def ruleStored (id name : String) (count : Int) : Fields :=
  [("id", .text id), ("name", .text name), ("description", .null),
    ("action", .text "send_notification"), ("action_value", .null), ("is_active", .bool true),
    ("trigger_count", .int count), ("last_triggered", .null), ("created_by", .null),
    ("created_at", .time ⟨1, none⟩), ("updated_at", .time ⟨2, none⟩)]

/-- A stored row of a group. -/
def groupStored (id ruleId junction : String) : Fields :=
  [("id", .text id), ("rule_id", .text ruleId), ("operator", .text junction),
    ("sort_order", .int 0)]

/-- A stored row of a condition. -/
def conditionStored (id groupId metric : String) (threshold : Double) : Fields :=
  [("id", .text id), ("group_id", .text groupId), ("metric", .text metric),
    ("operator", .text "gt"), ("threshold", .float threshold), ("sort_order", .int 0)]

/-- The sample row of a rule has what the table of rules asks for. -/
theorem rule_stored_typed (id name : String) (count : Int) :
    Table.Typed .rules ["action_log_count"] (ruleStored id name count) where
  each := by
    rw [rules_declared]
    simp only [List.forall_mem_cons]
    refine ⟨?_, ?_, ?_, ?_, ?_, ?_, ?_, ?_, ?_, ?_, ?_, by simp⟩
    all_goals first
      | exact ⟨_, rfl, .inl ⟨_, rfl⟩⟩
      | exact ⟨_, rfl, .inr ⟨rfl, by decide⟩⟩
  only := by
    rw [rules_declared, ruleStored]
    simp only [List.map_cons, List.map_nil]
    decide

/-- The sample row of a group has what the table of groups asks for. -/
theorem group_stored_typed (id ruleId junction : String) :
    Table.Typed .groups [] (groupStored id ruleId junction) where
  each := by
    rw [groups_declared]
    simp only [List.forall_mem_cons]
    exact ⟨⟨_, rfl, .inl ⟨_, rfl⟩⟩, ⟨_, rfl, .inl ⟨_, rfl⟩⟩, ⟨_, rfl, .inl ⟨_, rfl⟩⟩,
      ⟨_, rfl, .inl ⟨_, rfl⟩⟩, by simp⟩
  only := by
    rw [groups_declared, groupStored]
    simp only [List.map_cons, List.map_nil]
    decide

/-- The sample row of a condition has what the table of conditions asks for. -/
theorem condition_stored_typed (id groupId metric : String) (threshold : Double) :
    Table.Typed .conditions [] (conditionStored id groupId metric threshold) where
  each := by
    rw [conditions_declared]
    simp only [List.forall_mem_cons]
    exact ⟨⟨_, rfl, .inl ⟨_, rfl⟩⟩, ⟨_, rfl, .inl ⟨_, rfl⟩⟩, ⟨_, rfl, .inl ⟨_, rfl⟩⟩,
      ⟨_, rfl, .inl ⟨_, rfl⟩⟩, ⟨_, rfl, .inl ⟨_, rfl⟩⟩, ⟨_, rfl, .inl ⟨_, rfl⟩⟩, by simp⟩
  only := by
    rw [conditions_declared, conditionStored]
    simp only [List.map_cons, List.map_nil]
    decide

/-- Only the identifiers have to differ. -/
theorem unique_key (table : Table) : ∀ column ∈ table.declared,
    .unique [column.name] [] ∈ column.constraints → column = keyColumn := by
  cases table with
  | rules => rw [rules_declared]; decide
  | groups => rw [groups_declared]; decide
  | conditions => rw [conditions_declared]; decide

/-- Typed rows under different identifiers meet the schema. -/
theorem typed_of_ids {table : Table} {computed : List String} {rows : List Fields}
    (ids : List String) (typed : ∀ row ∈ rows, table.Typed computed row)
    (named : rows.map (·.getD "id") = ids.map .text) (distinct : ids.Nodup) :
    table.TypedAll computed rows where
  each := typed
  unique column declared isUnique := by
    rw [unique_key table column declared isUnique]
    have idsDistinct : (ids.map Value.text).Nodup :=
      distinct.map fun first second same => Value.text.inj same
    exact named ▸ idsDistinct

/-- Two rules and between them one that is not valid, since it was triggered a negative number of
times. -/
def storedRules : List Fields :=
  [ruleStored "a" "First" 3, ruleStored "b" "Broken" (-1), ruleStored "c" "Last" 0]

/-- Their groups, of which the first rule has two. -/
def storedGroups : List Fields :=
  [groupStored "g1" "a" "OR", groupStored "g2" "b" "AND", groupStored "g3" "c" "neither",
    groupStored "g4" "a" "AND"]

/-- The conditions of the groups, one of them about a metric that is not known. -/
def storedConditions : List Fields :=
  [conditionStored "c1" "g4" "clicks" .zero, conditionStored "c2" "g1" "likes" .nan,
    conditionStored "c3" "g2" "spend" .zero, conditionStored "c4" "g3" "ctr" .zero,
    conditionStored "c5" "g1" "reach" .zero]

/-- A database that holds these rows, all of whose rules are active. One of the rows makes no rule,
and the rows of the others are not together. -/
def shelf : Server where
  connect _ := .ok ()
  execute _ statement :=
    let rows := match statement with
      | .selectRules | .selectActiveRules => storedRules
      | .selectGroups _ => storedGroups
      | .selectConditions _ => storedConditions
      | _ => []
    .ok ⟨.ok rows, rows.length⟩
  commit _ := .ok ()

/-- A database with two rules, one of which has a name that no rule may have, and with groups and
conditions in mixed order. The other rule is loaded with its own groups and conditions alone. -/
theorem sample_loaded :
    let setting : Setting := ⟨⟨5, none⟩, false⟩
    let link : Link := ⟨shelf, [], ⟨5, none⟩, 0⟩
    let loaded := rulesFrom setting storedRules storedGroups storedConditions
    (repository "local").rules link = .ok loaded
        (link.after (loading "local" .selectRules storedRules storedGroups) 0) ∧
      (repository "local").activeRules link = .ok loaded
        (link.after (loading "local" .selectActiveRules storedRules storedGroups) 0) ∧
      loaded.map (·.id) = ["a", "c"] ∧
      loaded.map (·.groups.map (·.id)) = [[some "g1", some "g4"], [some "g3"]] ∧
      rulesFrom setting (otherRows "id" (some "b") storedRules)
        (otherRows "rule_id" (some "b") storedGroups)
        (otherConditions (ruleStored "b" "Broken" (-1)) storedGroups storedConditions) =
          loaded := by
  intro setting link loaded
  have typedRules : Table.TypedAll .rules ["action_log_count"] storedRules :=
    typed_of_ids ["a", "b", "c"] (by simp [storedRules, rule_stored_typed]) rfl (by decide)
  have typedGroups : Table.TypedAll .groups [] storedGroups :=
    typed_of_ids ["g1", "g2", "g3", "g4"] (by simp [storedGroups, group_stored_typed]) rfl
      (by decide)
  have typedConditions : Table.TypedAll .conditions [] storedConditions :=
    typed_of_ids ["c1", "c2", "c3", "c4", "c5"]
      (by simp [storedConditions, condition_stored_typed]) rfl (by decide)
  have loads : ∀ query, query = .selectRules ∨ query = .selectActiveRules →
      shelf.Loads "local" [] query storedRules storedGroups storedConditions := by
    rintro query (rfl | rfl)
    all_goals exact ⟨rfl, ⟨_, rfl, rfl⟩, fun _ => ⟨_, rfl, rfl⟩, fun _ _ => ⟨_, rfl, rfl⟩⟩
  obtain ⟨all, active, _, _, apart⟩ :=
    rules_loaded_exactly "local" link setting typedRules typedGroups typedConditions
  refine ⟨all (loads _ (.inl rfl)), active (loads _ (.inr rfl)), by decide +kernel,
    by decide +kernel, ?_⟩
  exact apart (ruleStored "b" "Broken" (-1)) (by simp [storedRules]) rfl

end AdRules.Database

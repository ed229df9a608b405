import AdRules.Database.Row
import AdRules.Proofs.DraftedRules
import AdRules.Proofs.Rechecks
import AdRules.Proofs.Tables
import Mathlib.Data.List.Perm.Basic

/-!
# Reading rows back

The rows of a sound rule, its groups and their conditions are read as that rule again. Groups and
conditions come in two flat lists, the conditions of different groups among each other in any way; a
condition finds its group by the identifier in its row, and the order within a group is kept because
the rows of one group are ordered.
-/

namespace AdRules.Database

/-! ## Rows as they are fetched -/

/-- How a cell shows: as its value, or as some time. -/
def Cell.ShowsAs : Cell → Option Value → Prop
  | .given value, shown => shown = some value
  | .moment, shown => ∃ time, shown = some (.time time)

/-- A row as it is fetched: with all its columns, and besides them only what the query computes. -/
structure Shows (computed : List String) (row : Row) (shown : Fields) : Prop where
  each : ∀ entry ∈ row, entry.2.ShowsAs (shown.get? entry.1)
  only : ∀ column, column ∉ row.map (·.1) → column ∉ computed → shown.get? column = none

variable {computed : List String} {row : Row} {shown : Fields}

/-- A value that was put in a column is fetched from there. -/
theorem Shows.given (shows : Shows computed row shown) {column : String} {value : Value}
    (put : (column, .given value) ∈ row) : shown.get? column = some value :=
  shows.each _ put

/-! ## Conditions -/

/-- The checked form of a condition's fields is that condition. -/
theorem condition_of_fields (id groupId : String) (metric : Metric) (comparison : Comparison)
    (threshold : Double) (position : Int) :
    Condition.ofFields
      [("id", .text id), ("group_id", .text groupId), ("metric", Vocabulary.toValue metric),
        ("operator", Vocabulary.toValue comparison), ("threshold", .float threshold),
        ("order", .int position)] =
      .valid ⟨.text id, .text groupId, .known metric, .known comparison, .float threshold,
        .int position⟩ := by
  unfold Condition.ofFields
  rw [optional_given rfl (nullable_text (some id)),
    optional_given rfl (nullable_text (some groupId)),
    required_given rfl (term_check _ metric), required_given rfl (term_check _ comparison)]
  rfl

/-- The order of a row is the one it was stored with: there is no column that goes before it. -/
theorem order_shown {position : Int} (only : shown.get? "order" = none)
    (ordered : shown.get? "sort_order" = some (.int position)) :
    StoredCondition.orderOf shown = .int position := by
  simp only [StoredCondition.orderOf, only, ordered, Option.getD_some]
  by_cases first : position = 0
  · simp [first]
  · have filled : (Value.int position).isEmpty = false := by simp [Value.isEmpty, first]
    simp [filled]

/-- The row of a condition is read as that condition, and as a sound one. -/
theorem stored_condition_read {id groupId : String} {metric : Metric} {comparison : Comparison}
    {threshold : Double} {position : Nat}
    (shows : Shows [] (conditionRow ⟨.text id, .text groupId, .known metric, .known comparison,
      .float threshold, .int position⟩) shown) :
    StoredCondition.ofRow shown = .ok (.sound ⟨.text id, .text groupId, .known metric,
      .known comparison, .float threshold, .int position⟩) := by
  have idShown : shown.get? "id" = some (.text id) := shows.given (by simp [conditionRow])
  have groupShown : shown.get? "group_id" = some (.text groupId) :=
    shows.given (by simp [conditionRow])
  have metricShown : shown.get? "metric" = some (Vocabulary.toValue metric) :=
    shows.given (by simp [conditionRow, Term.toValue])
  have comparisonShown : shown.get? "operator" = some (Vocabulary.toValue comparison) :=
    shows.given (by simp [conditionRow, Term.toValue])
  have thresholdShown : shown.get? "threshold" = some (.float threshold) :=
    shows.given (by simp [conditionRow])
  have orderShown : shown.get? "sort_order" = some (.int position) :=
    shows.given (by simp [conditionRow])
  have noOther : shown.get? "order" = none := shows.only "order" (by simp [conditionRow]) (by simp)
  have checked : StoredCondition.checked shown metric comparison threshold =
      .valid ⟨.text id, .text groupId, .known metric, .known comparison, .float threshold,
        .int position⟩ := by
    rw [StoredCondition.checked, order_shown noOther orderShown, Fields.getD, Fields.getD, idShown,
      groupShown]
    exact condition_of_fields id groupId metric comparison threshold position
  have metricRead := (Vocabulary.of_value_iff (Vocabulary.toValue metric) metric).mpr rfl
  have comparisonRead :=
    (Vocabulary.of_value_iff (Vocabulary.toValue comparison) comparison).mpr rfl
  have thresholdRead : storedThreshold? (.float threshold) = .ok (some threshold) := rfl
  unfold StoredCondition.ofRow
  simp only [metricShown, comparisonShown, thresholdShown, Option.bind_some, metricRead,
    comparisonRead, Option.map_some, thresholdRead, checked]

/-- The row of a condition is read under the identifier of its group. -/
theorem condition_read {id groupId : String} {metric : Metric} {comparison : Comparison}
    {threshold : Double} {position : Nat}
    (shows : Shows [] (conditionRow ⟨.text id, .text groupId, .known metric, .known comparison,
      .float threshold, .int position⟩) shown) :
    conditionOfRow shown = .ok (.text groupId, ⟨.text id, .text groupId, .known metric,
      .known comparison, .float threshold, .int position⟩) := by
  unfold conditionOfRow
  rw [stored_condition_read shows]
  rfl

/-! ## Groups and rules -/

/-- The row of a group is read as the group with the conditions under its identifier. -/
theorem group_read {id ruleId : String} {junction : Junction} {position : Nat}
    {given : List Condition} (conditions : List (Value × Condition))
    (shows : Shows [] (groupRow ⟨some id, some ruleId, .known junction, position, given⟩) shown) :
    groupOfRow conditions shown = .ok (.text ruleId, ⟨some id, some ruleId, .known junction,
      position, entriesUnder (.text id) conditions⟩) := by
  have idShown : shown.get? "id" = some (.text id) :=
    shows.given (by simp [groupRow, Value.ofText?])
  have ruleShown : shown.get? "rule_id" = some (.text ruleId) :=
    shows.given (by simp [groupRow, Value.ofText?])
  have junctionShown : shown.get? "operator" = some (Vocabulary.toValue junction) :=
    shows.given (by simp [groupRow, Term.toValue])
  have orderShown : shown.get? "sort_order" = some (.int position) :=
    shows.given (by simp [groupRow])
  have checked : ConditionGroup.ofFieldsWith
      (fun _ => .valid (entriesUnder (.text id) conditions))
      [("id", .text id), ("rule_id", .text ruleId), ("operator", Vocabulary.toValue junction),
        ("order", .int position), ("conditions", .null)] =
      .valid ⟨some id, some ruleId, .known junction, position,
        entriesUnder (.text id) conditions⟩ := by
    unfold ConditionGroup.ofFieldsWith
    rw [optional_given rfl (nullable_text (some id)),
      optional_given rfl (nullable_text (some ruleId)), optional_given rfl (term_check _ junction)]
    rfl
  unfold groupOfRow
  simp only [column, ruleShown, idShown, junctionShown, orderShown, bind, Except.bind, nameable,
    checked, sound, pure, Except.pure]

/-- The row of a new rule is read as the rule with the given groups. -/
theorem rule_read {id : String} {draft : RuleDraft} {owner : Option String} {count : Nat}
    (groups : List ConditionGroup) (name : SoundName draft.name)
    (shows : Shows ["action_log_count"] (ruleRow id draft (.ofText? owner)) shown)
    (counted : shown.get? "action_log_count" = some (.int count)) :
    ∃ created updated, ruleOfRow groups shown =
      .ok ⟨draft.name, draft.description, draft.action, draft.actionValue, id, draft.isActive, 0,
        none, owner, some created, some updated, groups, some count⟩ := by
  have idShown : shown.get? "id" = some (.text id) := shows.given (by simp [ruleRow])
  have nameShown : shown.get? "name" = some (.text draft.name) :=
    shows.given (by simp [ruleRow])
  have descriptionShown : shown.get? "description" = some (.ofText? draft.description) :=
    shows.given (by simp [ruleRow])
  have actionShown : shown.get? "action" = some (Vocabulary.toValue draft.action) :=
    shows.given (by simp [ruleRow])
  have valueShown : shown.get? "action_value" = some (.ofText? draft.actionValue) :=
    shows.given (by simp [ruleRow])
  have activeShown : shown.get? "is_active" = some (.bool draft.isActive) :=
    shows.given (by simp [ruleRow])
  have countShown : shown.get? "trigger_count" = some (.int 0) :=
    shows.given (by simp [ruleRow])
  have lastShown : shown.get? "last_triggered" = some .null := shows.given (by simp [ruleRow])
  have ownerShown : shown.get? "created_by" = some (.ofText? owner) :=
    shows.given (by simp [ruleRow])
  obtain ⟨created, createdShown⟩ : ∃ time, shown.get? "created_at" = some (.time time) :=
    shows.each ("created_at", .moment) (by simp [ruleRow])
  obtain ⟨updated, updatedShown⟩ : ∃ time, shown.get? "updated_at" = some (.time time) :=
    shows.each ("updated_at", .moment) (by simp [ruleRow])
  have checked : Rule.ofFieldsWith (fun _ => .valid groups)
      [("id", .text id), ("name", .text draft.name), ("description", .ofText? draft.description),
        ("action", Vocabulary.toValue draft.action),
        ("action_value", .ofText? draft.actionValue), ("is_active", .bool draft.isActive),
        ("trigger_count", .int 0), ("last_triggered", .null), ("created_by", .ofText? owner),
        ("created_at", .time created), ("updated_at", .time updated),
        ("condition_groups", .null), ("action_log_count", .int count)] =
      .valid ⟨draft.name, draft.description, draft.action, draft.actionValue, id, draft.isActive, 0,
        none, owner, some created, some updated, groups, some count⟩ := by
    unfold Rule.ofFieldsWith
    rw [required_given rfl name.checked, optional_given rfl (nullable_text draft.description),
      required_given rfl (choice_check draft.action),
      optional_given rfl (nullable_text draft.actionValue),
      optional_given rfl (nullable_text owner)]
    rfl
  have noCount : (Value.int 0).isEmpty = true := rfl
  refine ⟨created, updated, ?_⟩
  unfold ruleOfRow
  simp only [column, Fields.getD, idShown, nameShown, descriptionShown, actionShown, valueShown,
    activeShown, countShown, lastShown, ownerShown, createdShown, updatedShown, counted, bind,
    Except.bind, Option.getD_some, noCount, if_true, checked, sound]

/-! ## Order -/

/-- Two rows with the same value in a column come in the order of their positions. -/
def Row.inOrder (link : String) (first second : Row) : Prop :=
  first.value? link = second.value? link → ∀ earlier later,
    first.value? "sort_order" = some (.int earlier) →
      second.value? "sort_order" = some (.int later) → earlier ≤ later

/-- Items in the order of their places are the items by position. -/
theorem eq_of_placed {α : Type} (place : α → Int) {items sorted : List α}
    (permuted : sorted.Perm items) (ascending : sorted.Pairwise fun a b => place a ≤ place b)
    (placed : ∀ (position : Nat) (item : α), items[position]? = some item → place item = position) :
    sorted = items := by
  -- An item says where it stands, so two items that stand in one place are the same.
  refine List.Perm.eq_of_pairwise ?_ ascending ?_ permuted
  · intro first second inSorted inItems upTo from'
    obtain ⟨i, atFirst⟩ := List.mem_iff_getElem?.mp (permuted.mem_iff.mp inSorted)
    obtain ⟨j, atSecond⟩ := List.mem_iff_getElem?.mp inItems
    have firstPlace := placed i first atFirst
    have secondPlace := placed j second atSecond
    have same : i = j := by omega
    subst same
    exact Option.some.inj (atFirst.symm.trans atSecond)
  · rw [List.pairwise_iff_getElem]
    intro i j inside later before
    have firstPlace := placed i items[i] (List.getElem?_eq_getElem inside)
    have secondPlace := placed j items[j] (List.getElem?_eq_getElem later)
    omega

/-- Rows in any order are the rows of the items in some order. -/
theorem perm_of_map {α : Type} {row : α → Row} {rows : List Row} {items : List α}
    (permuted : rows.Perm (items.map row)) :
    ∃ sorted : List α, rows = sorted.map row ∧ sorted.Perm items := by
  obtain ⟨sorted, same, among⟩ :=
    (congrFun (congrFun (List.eq_map_comp_perm row) rows) items).mpr permuted
  exact ⟨sorted, same, among⟩

/-- Rows that are read one by one are read together. -/
theorem rows_read {α β : Type} {row : α → Row} {read : Fields → Except Failure β} {result : α → β}
    {items : List α} {shown : List Fields}
    (shows : List.Forall₂ (fun item fields => Shows [] (row item) fields) items shown)
    (each : ∀ item ∈ items, ∀ fields, Shows [] (row item) fields →
      read fields = .ok (result item)) :
    shown.mapM read = .ok (items.map result) := by
  induction shows with
  | nil => rfl
  | @cons item fields items shown first later inductionHypothesis =>
    have own := each item List.mem_cons_self fields first
    have others := inductionHypothesis fun other member =>
      each other (List.mem_cons_of_mem item member)
    simp only [List.mapM_cons, own, others, List.map_cons, bind, Except.bind, pure, Except.pure]

/-! ## Groups with their conditions -/

/-- The position that a condition is stored with. -/
def placeOf (condition : Condition) : Int :=
  match condition.order with
  | .int position => position
  | _ => 0

/-- Only texts name a text. -/
theorem same_named (name : Option String) (id : String) :
    (Value.ofText? name).sameName (.text id) = decide (name = some id) := by
  cases name with
  | none => rfl
  | some content => simp [Value.ofText?, Value.sameName, BEq.beq]

/-- The entries under a name, when every entry has its own. -/
theorem entries_under {α : Type} (key : α → Value) (name : Value) (items : List α) :
    entriesUnder name (items.map fun item => (key item, item)) =
      items.filter fun item => (key item).sameName name := by
  induction items with
  | nil => rfl
  | cons item rest inductionHypothesis =>
    simp only [entriesUnder, List.map_cons, List.filterMap_cons, List.filter_cons]
      at inductionHypothesis ⊢
    by_cases named : (key item).sameName name = true
    · simp only [named, if_true, inductionHypothesis]
    · simp [named, inductionHypothesis]

/-- Among the conditions of groups with distinct identifiers, those under the identifier of one
group are its own. -/
theorem conditions_under {groups : List ConditionGroup} (distinct : (groups.map (·.id)).Nodup)
    (owned : ∀ group ∈ groups, ∀ condition ∈ group.conditions,
      condition.groupId = .ofText? group.id)
    {group : ConditionGroup} (member : group ∈ groups) {id : String} (named : group.id = some id) :
    (groups.flatMap (·.conditions)).filter (fun condition =>
      condition.groupId.sameName (.text id)) = group.conditions := by
  have allOrNone : ∀ other ∈ groups, other.conditions.filter (fun condition =>
      condition.groupId.sameName (.text id)) =
        if other.id = group.id then other.conditions else [] := by
    intro other listed
    have linked : ∀ condition ∈ other.conditions,
        condition.groupId.sameName (.text id) = decide (other.id = group.id) := by
      intro condition inOther
      rw [owned other listed condition inOther, same_named, named]
    rw [List.filter_congr linked]
    by_cases same : other.id = group.id <;> simp [same]
  rw [List.filter_flatMap]
  -- The induction would need `owned` only for what `allOrNone` already says of every group.
  clear owned
  induction groups with
  | nil => cases member
  | cons first rest inductionHypothesis =>
    rw [List.map_cons, List.nodup_cons] at distinct
    rw [List.flatMap_cons, allOrNone first List.mem_cons_self]
    rcases List.mem_cons.mp member with rfl | later
    · have none : rest.flatMap (fun other => other.conditions.filter fun condition =>
          condition.groupId.sameName (.text id)) = [] := by
        rw [List.flatMap_eq_nil_iff]
        intro other listed
        have apart : other.id ≠ group.id := fun same =>
          distinct.1 (same ▸ List.mem_map_of_mem listed)
        rw [allOrNone other (List.mem_cons_of_mem group listed), if_neg apart]
      rw [if_pos rfl, none, List.append_nil]
    · have apart : first.id ≠ group.id := fun same =>
        distinct.1 (same ▸ List.mem_map_of_mem later)
      rw [if_neg apart, List.nil_append]
      exact inductionHypothesis distinct.2 later fun other listed =>
        allOrNone other (List.mem_cons_of_mem first listed)

/-- The groups of a rule as they are stored: sound, and all of them and their conditions under
identifiers, which differ from group to group. -/
structure StoredGroups (ruleId : String) (groups : List ConditionGroup) : Prop where
  sound : ∀ (position : Nat) (group : ConditionGroup), groups[position]? = some group →
    group.SoundIn ruleId position
  named : ∀ group ∈ groups, ∃ id, group.id = some id
  conditionsNamed : ∀ group ∈ groups, ∀ condition ∈ group.conditions,
    ∃ id, condition.id = .text id
  distinct : (groups.map (·.id)).Nodup

namespace StoredGroups

variable {ruleId : String} {groups : List ConditionGroup}

/-- A stored group is one that can be read back. -/
theorem group_form (stored : StoredGroups ruleId groups) {group : ConditionGroup}
    (member : group ∈ groups) :
    ∃ (id : String) (junction : Junction) (position : Nat),
      group = ⟨some id, some ruleId, .known junction, position, group.conditions⟩ := by
  obtain ⟨position, placed⟩ := List.mem_iff_getElem?.mp member
  obtain ⟨id, named⟩ := stored.named group member
  have sound := stored.sound position group placed
  obtain ⟨junction, known⟩ := sound.junction
  refine ⟨id, junction, position, ?_⟩
  rw [← named, ← sound.ofRule, ← known, ← sound.placed]

/-- A stored condition is one that can be read back. -/
theorem condition_form (stored : StoredGroups ruleId groups) {group : ConditionGroup}
    (member : group ∈ groups) {condition : Condition} (inGroup : condition ∈ group.conditions) :
    ∃ (id groupId : String) (metric : Metric) (comparison : Comparison) (threshold : Double)
      (position : Nat), group.id = some groupId ∧
        condition = ⟨.text id, .text groupId, .known metric, .known comparison, .float threshold,
          .int position⟩ := by
  obtain ⟨place, placed⟩ := List.mem_iff_getElem?.mp member
  obtain ⟨position, within⟩ := List.mem_iff_getElem?.mp inGroup
  obtain ⟨groupId, groupNamed⟩ := stored.named group member
  obtain ⟨id, named⟩ := stored.conditionsNamed group member condition inGroup
  have sound := (stored.sound place group placed).conditions position condition within
  have ofGroup : condition.groupId = .text groupId := by rw [sound.ofGroup, groupNamed]; rfl
  obtain ⟨metric, knownMetric⟩ := sound.metric
  obtain ⟨comparison, knownComparison⟩ := sound.comparison
  obtain ⟨threshold, given, _⟩ := sound.threshold
  refine ⟨id, groupId, metric, comparison, threshold, position, groupNamed, ?_⟩
  rw [← named, ← ofGroup, ← knownMetric, ← knownComparison, ← given, ← sound.placed]

/-- The rows of the groups, in the order of their positions, are the groups in order. -/
theorem ordered_groups (stored : StoredGroups ruleId groups) {rows : List Row}
    (permuted : rows.Perm (groups.map groupRow))
    (ascending : rows.Pairwise (Row.inOrder "rule_id")) : rows = groups.map groupRow := by
  obtain ⟨sorted, rfl, among⟩ := perm_of_map permuted
  have placed : sorted.Pairwise fun first second => first.order ≤ second.order := by
    refine (List.pairwise_map.mp ascending).imp_of_mem ?_
    intro first second isFirst isSecond inOrder
    obtain ⟨_, _, _, formFirst⟩ := stored.group_form (among.mem_iff.mp isFirst)
    obtain ⟨_, _, _, formSecond⟩ := stored.group_form (among.mem_iff.mp isSecond)
    refine inOrder ?_ _ _ rfl rfl
    rw [formFirst, formSecond]
    rfl
  rw [eq_of_placed (·.order) among placed fun position group at' =>
    (stored.sound position group at').placed]

/-- Of the conditions, in any order that keeps the order within each group, those of one group are
its conditions in order. -/
theorem ordered_conditions (stored : StoredGroups ruleId groups) {sorted : List Condition}
    (among : sorted.Perm (groups.flatMap (·.conditions)))
    (ascending : (sorted.map conditionRow).Pairwise (Row.inOrder "group_id"))
    {group : ConditionGroup} (member : group ∈ groups) {id : String} (named : group.id = some id) :
    sorted.filter (fun condition => condition.groupId.sameName (.text id)) = group.conditions := by
  have owned : ∀ group ∈ groups, ∀ condition ∈ group.conditions,
      condition.groupId = .ofText? group.id := by
    intro other listed condition inOther
    obtain ⟨_, _, _, _, _, _, groupNamed, form⟩ := stored.condition_form listed inOther
    rw [groupNamed, form]
    rfl
  have permuted : (sorted.filter fun condition =>
      condition.groupId.sameName (.text id)).Perm group.conditions := by
    have filtered := among.filter fun condition => condition.groupId.sameName (.text id)
    rwa [conditions_under stored.distinct owned member named] at filtered
  obtain ⟨place, placed⟩ := List.mem_iff_getElem?.mp member
  -- Conditions of other groups may stand between these; what is kept of the order is enough.
  refine eq_of_placed placeOf permuted ?_ ?_
  · have kept : (sorted.filter fun condition => condition.groupId.sameName (.text id)).Pairwise
        fun first second => Row.inOrder "group_id" (conditionRow first) (conditionRow second) :=
      (List.pairwise_map.mp ascending).sublist List.filter_sublist
    refine kept.imp_of_mem ?_
    intro first second isFirst isSecond inOrder
    obtain ⟨_, firstGroup, _, _, _, _, firstNamed, formFirst⟩ :=
      stored.condition_form member (permuted.mem_iff.mp isFirst)
    obtain ⟨_, secondGroup, _, _, _, _, secondNamed, formSecond⟩ :=
      stored.condition_form member (permuted.mem_iff.mp isSecond)
    have sameGroup : firstGroup = secondGroup :=
      Option.some.inj (firstNamed.symm.trans secondNamed)
    subst sameGroup
    rw [formFirst, formSecond] at inOrder ⊢
    exact inOrder rfl _ _ rfl rfl
  · intro at' condition within
    have sound := (stored.sound place group placed).conditions at' condition within
    simp only [placeOf, sound.placed]

/-- What is fetched for the groups of a rule and their conditions is read as these groups: the rows
of groups in order, those of conditions in any order that keeps the order within each group. -/
theorem groups_read (stored : StoredGroups ruleId groups) {groupRows conditionRows : List Row}
    {shownGroups shownConditions : List Fields}
    (allGroups : groupRows.Perm (groups.map groupRow))
    (groupsOrdered : groupRows.Pairwise (Row.inOrder "rule_id"))
    (groupsShown : List.Forall₂ (Shows []) groupRows shownGroups)
    (allConditions : conditionRows.Perm ((groups.flatMap (·.conditions)).map conditionRow))
    (conditionsOrdered : conditionRows.Pairwise (Row.inOrder "group_id"))
    (conditionsShown : List.Forall₂ (Shows []) conditionRows shownConditions) :
    ∃ conditions, shownConditions.mapM conditionOfRow = .ok conditions ∧
      shownGroups.mapM (groupOfRow conditions) =
        .ok (groups.map fun group => (.text ruleId, group)) := by
  obtain ⟨sorted, rfl, among⟩ := perm_of_map allConditions
  obtain rfl := stored.ordered_groups allGroups groupsOrdered
  refine ⟨sorted.map fun condition => (condition.groupId, condition), ?_, ?_⟩
  · refine rows_read (List.forall₂_map_left_iff.mp conditionsShown) ?_
    intro condition listed fields shows
    obtain ⟨group, member, inGroup⟩ := List.mem_flatMap.mp (among.mem_iff.mp listed)
    obtain ⟨_, _, _, _, _, _, _, form⟩ := stored.condition_form member inGroup
    rw [form] at shows ⊢
    exact condition_read shows
  · refine rows_read (List.forall₂_map_left_iff.mp groupsShown) ?_
    intro group member fields shows
    obtain ⟨id, junction, position, form⟩ := stored.group_form member
    have named : group.id = some id := by rw [form]
    rw [form] at shows
    rw [group_read _ shows, entries_under,
      stored.ordered_conditions among conditionsOrdered member named, ← form]

/-- The identifiers of the groups are those in their rows. -/
theorem group_ids_read (stored : StoredGroups ruleId groups) {groupRows : List Row}
    {shownGroups : List Fields} (allGroups : groupRows.Perm (groups.map groupRow))
    (groupsOrdered : groupRows.Pairwise (Row.inOrder "rule_id"))
    (groupsShown : List.Forall₂ (Shows []) groupRows shownGroups) :
    shownGroups.mapM (column · "id") = .ok (groups.map fun group => .ofText? group.id) := by
  obtain rfl := stored.ordered_groups allGroups groupsOrdered
  refine rows_read (List.forall₂_map_left_iff.mp groupsShown) ?_
  intro group member fields shows
  have idShown : fields.get? "id" = some (.ofText? group.id) := shows.given (by simp [groupRow])
  rw [column, idShown]

end StoredGroups

end AdRules.Database

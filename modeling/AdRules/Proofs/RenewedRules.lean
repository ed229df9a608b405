import AdRules.Proofs.Assignments
import AdRules.Proofs.SoundRules

/-!
# Rules that are changed

A change takes over the fields that it gives and dates the rule; every other field stays, and so
does every other rule. New groups are made from their drafts: they are numbered by their positions
and take identifiers that nothing stored has. The change that is looked at here is the one of the
store in memory.
-/

namespace AdRules

/-! ## Fields by name -/

namespace Fields

/-- What is looked for in a list of fields is the first of them, or looked for in the others. -/
theorem get_cons (name wanted : String) (value : Value) (others : Fields) :
    get? ((name, value) :: others) wanted =
      if name = wanted then some value else get? others wanted := by
  by_cases same : name = wanted <;> simp [get?, same]

/-- Columns without a value are left out. -/
def ofColumns (columns : List (String × Option Value)) : Fields :=
  columns.filterMap fun (column, value) => value.map fun value => (column, value)

variable {columns : List (String × Option Value)} {column : String}

/-- A name that is no column has no value in the fields made of columns. -/
theorem get_of_no_column (missing : column ∉ columns.map (·.1)) :
    get? (ofColumns columns) column = none := by
  induction columns with
  | nil => rfl
  | cons first others inductionHypothesis =>
    obtain ⟨name, value⟩ := first
    rw [List.map_cons, List.mem_cons, not_or] at missing
    have rested := inductionHypothesis missing.2
    cases value with
    | none => exact rested
    | some value =>
      exact (get_cons name column value _).trans ((if_neg (Ne.symm missing.1)).trans rested)

/-- Distinct columns are found with their values. -/
theorem get_of_column (distinct : (columns.map (·.1)).Nodup) {value : Option Value}
    (listed : (column, value) ∈ columns) : get? (ofColumns columns) column = value := by
  induction columns with
  | nil => cases listed
  | cons first others inductionHypothesis =>
    obtain ⟨name, given⟩ := first
    rw [List.map_cons, List.nodup_cons] at distinct
    rcases List.mem_cons.mp listed with own | later
    · obtain ⟨rfl, rfl⟩ := Prod.mk.inj own
      cases value with
      | none =>
        have missing : get? (ofColumns others) column = none := get_of_no_column distinct.1
        exact missing
      | some value => exact (get_cons column column value _).trans (if_pos rfl)
    · have apart : name ≠ column := fun same =>
        distinct.1 (List.mem_map.mpr ⟨_, later, same.symm⟩)
      have rested := inductionHypothesis distinct.2 later
      cases given with
      | none => exact rested
      | some given => exact (get_cons name column given _).trans ((if_neg apart).trans rested)

end Fields

/-! ## Fields of a change -/

namespace RuleChange

variable (change : RuleChange)

/-- The columns that a change can assign, with the values that it gives. -/
def columns : List (String × Option Value) :=
  [("name", change.name.map .text), ("description", change.description.map .text),
    ("action", change.action.map Vocabulary.toValue),
    ("action_value", change.actionValue.map .text), ("is_active", change.isActive.map .bool)]

/-- What a change gives are the fields of its columns, without those that it leaves out. -/
theorem given_of_columns : change.given = Fields.ofColumns change.columns :=
  (Database.assignments_given change).symm

/-- Each of the columns is found among the given fields if a value is given. -/
theorem given_column {column : String} {value : Option Value}
    (listed : (column, value) ∈ change.columns) : change.given.get? column = value := by
  have distinct : (change.columns.map (·.1)).Nodup :=
    (by decide : Database.changeColumns.Nodup)
  rw [given_of_columns]
  exact Fields.get_of_column distinct listed

/-- A change gives nothing under a name that is no column it can touch. -/
theorem given_no_column {name : String} (missing : name ∉ Database.changeColumns) :
    change.given.get? name = none := by
  rw [given_of_columns]
  exact Fields.get_of_no_column missing

end RuleChange

/-! ## What a change makes of a rule -/

/-- The condition was made from a draft, for a position in a group. -/
structure Condition.MadeFrom (draft : ConditionDraft) (groupId : Option String) (position : Nat)
    (condition : Condition) : Prop where
  metric : condition.metric = .known draft.metric
  comparison : condition.comparison = .known draft.comparison
  threshold : condition.threshold = .float draft.threshold
  ofGroup : condition.groupId = .ofText? groupId
  placed : condition.order = .int position

/-- The group was made from a draft, for a position in a rule, and so were its conditions for those
of the group. -/
structure ConditionGroup.MadeFrom (draft : GroupDraft) (ruleId : String) (position : Nat)
    (group : ConditionGroup) : Prop where
  junction : group.junction = .known draft.junction
  ofRule : group.ruleId = some ruleId
  placed : group.order = position
  conditions : List.Forall₂
    (fun place condition => Condition.MadeFrom place.1 group.id place.2 condition)
    draft.conditions.zipIdx group.conditions

/-- The given fields of a change take the place of those of a rule, and the moment that of its last
change; nothing else differs. Groups that are given are made from their drafts in order. -/
structure RuleChange.Renews (change : RuleChange) (now : Timestamp) (rule updated : Rule) :
    Prop where
  fields : ∀ name, name ≠ "updated_at" → name ≠ "condition_groups" →
    updated.toFields.get? name = (change.given.get? name).or (rule.toFields.get? name)
  dated : updated.updatedAt = some now
  id : updated.id = rule.id
  triggerCount : updated.triggerCount = rule.triggerCount
  lastTriggered : updated.lastTriggered = rule.lastTriggered
  createdBy : updated.createdBy = rule.createdBy
  createdAt : updated.createdAt = rule.createdAt
  keptGroups : change.groups = none → updated.groups = rule.groups
  newGroups : ∀ drafts, change.groups = some drafts →
    List.Forall₂ (fun place group => ConditionGroup.MadeFrom place.1 rule.id place.2 group)
      drafts.zipIdx updated.groups

section Renewal

variable [IdSupply]

/-- Conditions are made of their drafts one by one, each with its place in the group. By induction
on the drafts. -/
theorem conditions_made (groupId : String) (order issued : Nat) (drafts : List ConditionDraft) :
    List.Forall₂
      (fun place condition => Condition.MadeFrom place.1 (some groupId) place.2 condition)
      (drafts.zipIdx order) (Condition.ofDrafts groupId order issued drafts) := by
  induction drafts generalizing order issued with
  | nil => exact .nil
  | cons draft rest inductionHypothesis =>
    rw [List.zipIdx_cons, Condition.ofDrafts]
    exact .cons ⟨rfl, rfl, rfl, rfl, rfl⟩ (inductionHypothesis (order + 1) (issued + 1))

/-- Groups are made of their drafts one by one, each with its place in the rule. By induction on the
drafts. -/
theorem groups_made (ruleId : String) (order issued : Nat) (drafts : List GroupDraft) :
    List.Forall₂ (fun place group => ConditionGroup.MadeFrom place.1 ruleId place.2 group)
      (drafts.zipIdx order) (ConditionGroup.ofDrafts ruleId order issued drafts) := by
  induction drafts generalizing order issued with
  | nil => exact .nil
  | cons draft rest inductionHypothesis =>
    rw [List.zipIdx_cons, ConditionGroup.ofDrafts]
    exact .cons ⟨rfl, rfl, rfl, conditions_made _ 0 (issued + 1) draft.conditions⟩
      (inductionHypothesis (order + 1) (issued + 1 + draft.conditions.length))

variable (change : RuleChange) (now : Timestamp) (issued : Nat) (rule : Rule)

/-- A column that a change can assign holds what it gives, or else what was there. -/
theorem column_renewed {column : String} {value : Option Value}
    (listed : (column, value) ∈ change.columns) :
    (change.apply now issued rule).toFields.get? column =
      value.or (rule.toFields.get? column) := by
  obtain ⟨name, description, action, actionValue, isActive, groups⟩ := change
  simp only [RuleChange.columns, List.mem_cons, List.not_mem_nil, or_false, Prod.mk.injEq]
    at listed
  rcases listed with ⟨rfl, rfl⟩ | ⟨rfl, rfl⟩ | ⟨rfl, rfl⟩ | ⟨rfl, rfl⟩ | ⟨rfl, rfl⟩
  · cases name <;> rfl
  · cases description <;> rfl
  · cases action <;> rfl
  · cases actionValue <;> rfl
  · cases isActive <;> rfl

/-- A field that is none of those that a change can assign is the same. -/
theorem other_fields_kept {name : String} (other : name ∉ Database.changeColumns)
    (notDate : name ≠ "updated_at") (notGroups : name ≠ "condition_groups") :
    (change.apply now issued rule).toFields.get? name = rule.toFields.get? name := by
  simp only [Database.changeColumns, List.mem_cons, List.not_mem_nil, or_false, not_or] at other
  obtain ⟨notName, notDescription, notAction, notValue, notActive⟩ := other
  simp only [Rule.toFields, Fields.get_cons, Ne.symm notDate, Ne.symm notGroups, Ne.symm notName,
    Ne.symm notDescription, Ne.symm notAction, Ne.symm notValue, Ne.symm notActive, if_false,
    RuleChange.apply]

/-- Applying a change does what it gives to the rule and nothing else. -/
theorem RuleChange.apply_renews : change.Renews now rule (change.apply now issued rule) where
  fields := by
    intro name notDate notGroups
    by_cases column : name ∈ Database.changeColumns
    · obtain ⟨⟨_, value⟩, listed, rfl⟩ :=
        List.mem_map.mp (show name ∈ change.columns.map (·.1) from column)
      rw [change.given_column listed]
      exact column_renewed change now issued rule listed
    · rw [change.given_no_column column, Option.none_or]
      exact other_fields_kept change now issued rule column notDate notGroups
  dated := rfl
  id := rfl
  triggerCount := rfl
  lastTriggered := rfl
  createdBy := rfl
  createdAt := rfl
  keptGroups given := by simp only [apply, given]
  newGroups drafts given := by
    simp only [apply, given]
    exact groups_made rule.id 0 issued drafts

end Renewal

/-! ## What a change makes of the store -/

namespace Memory

variable [IdSupply] {memory : Memory} {rule : Rule}

/-- One rule is renewed in its place and dated with the moment of the change. All other rules, the
logs and the readings are the same. The identifiers of new groups and of their conditions are
distinct, and nothing stored has one of them. -/
structure Renewed (change : RuleChange) (before : Memory) (rule updated : Rule) (after : Memory) :
    Prop where
  renews : change.Renews before.now rule updated
  rules : ∃ earlier later, before.store.rules = earlier ++ rule :: later ∧
    after.store.rules = earlier ++ updated :: later
  logs : after.store.logs = before.store.logs
  campaigns : after.store.campaigns = before.store.campaigns
  clock : after.now = before.now
  issued : after.issued = before.issued + change.idCount
  newIds : change.groups.isSome = true →
    updated.groups.flatMap ConditionGroup.identifiers = issuedIds before.issued change.idCount
  distinctIds : (issuedIds before.issued change.idCount).Nodup
  freshIds : ∀ id ∈ issuedIds before.issued change.idCount, id ∉ before.store.identifiers

/-- The groups that a change gives take the identifiers that are issued for it. -/
theorem change_group_ids (change : RuleChange) (now : Timestamp) (issued : Nat) (rule : Rule)
    (given : change.groups.isSome = true) :
    (change.apply now issued rule).groups.flatMap ConditionGroup.identifiers =
      issuedIds issued change.idCount := by
  obtain ⟨drafts, given⟩ := Option.isSome_iff_exists.mp given
  simp only [RuleChange.apply, RuleChange.idCount, given, group_ids]

/-- A stored rule is changed, and nothing else. That identifiers are distinct is needed, as a change
is written to every rule under the identifier. -/
theorem update_renews (distinct : (memory.store.rules.map (·.id)).Nodup)
    (sound : memory.store.Sound memory.issued) (stored : rule ∈ memory.store.rules)
    (change : RuleChange) :
    ∃ after, repository.updateRule (.text rule.id) change memory =
        .ok (some (memory.store.withCount (change.apply memory.now memory.issued rule))) after ∧
      Renewed change memory rule (change.apply memory.now memory.issued rule) after := by
  have found := Store.rule?_of_mem distinct stored
  have sameId : (change.apply memory.now memory.issued rule).id = rule.id := rfl
  obtain ⟨earlier, later, split, put⟩ := Store.put_rule_around distinct stored sameId
  refine ⟨memory.keep (memory.store.putRule (change.apply memory.now memory.issued rule))
    (memory.issued + change.idCount), ?_, ?_⟩
  · simp only [repository, Memory.change, withId, id?, bind, Except.bind, Store.updateRule, found,
      Except.map, keep]
  · refine ⟨change.apply_renews memory.now memory.issued rule, ⟨earlier, later, split, ?_⟩, rfl,
      rfl, rfl, rfl, change_group_ids change memory.now memory.issued rule,
      issued_ids_nodup _ _, ?_⟩
    · exact congrArg Store.rules put
    · intro id new used
      obtain ⟨other, isStored, own⟩ := List.mem_flatMap.mp used
      exact Store.issued_ids_fresh new (sound.issuedBefore other isStored id own)

end Memory

end AdRules

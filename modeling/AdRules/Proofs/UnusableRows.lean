import AdRules.Proofs.DamagedConditions
import AdRules.Proofs.LoadedRules
import AdRules.Proofs.NearestDoubles

/-!
# Rows of conditions that are of no use

A row becomes a condition, sound or damaged, whatever is stored in it, with two exceptions: where
its words are known and its threshold is an integer that no double is near to, and where an integer
that is too long to be written stands in its identifier, under which the damage would have to be
noted. A condition is then put under the identifier of its group, which fails where that is a list
or a record. The rows of all groups are read together, so that one row of any of these kinds keeps
every rule of a query from being loaded; rows of no other kind do.

What stands in a column may be any value, with integers of any size. Values that are nested too
deeply to be written are left outside.
-/

namespace AdRules

/-! ## Thresholds -/

/-- The least integer that no double is near to, half of the last place beyond the largest one. -/
def Double.integerLimit : Int := 2 ^ 1024 - 2 ^ 970

/-- An integer is out of the range of doubles from the limit on. -/
theorem Double.of_int_none_iff (number : Int) :
    Double.ofInt? number = none ↔ Double.integerLimit ≤ |number| := by
  have size : ((number.natAbs : ℕ) / (1 : ℕ) : ℝ) = ((|number| : ℤ) : ℝ) := by
    rw [Nat.cast_one, div_one, Nat.cast_natAbs]
  have limited : Double.limit ≤ ((|number| : ℤ) : ℝ) ↔ Double.integerLimit ≤ |number| := by
    exact Int.cast_le
  rw [← limited, Double.ofInt?, Option.map_eq_none_iff]
  rcases @Magnitude.of_ratio_nearest number.natAbs 1 one_pos with
    ⟨below, magnitude, made, _⟩ | ⟨reached, missing⟩
  · rw [size] at below
    simp only [made, reduceCtorEq, false_iff, not_le]
    exact below
  · rw [size] at reached
    simp only [missing, true_iff]
    exact reached

/-- A stored threshold fails to be read only where it is an integer out of range. -/
theorem threshold_refused_iff (stored : Value) (failure : Failure) :
    storedThreshold? stored = .error failure ↔ failure = .outOfRange ∧
      ∃ number : Int, stored = .int number ∧ Double.integerLimit ≤ |number| := by
  simp only [← Double.of_int_none_iff]
  fun_cases storedThreshold? stored with
  | case1 | case2 | case5 => simp
  | case3 number double made => simp [made]
  | case4 number missing => simp [missing, eq_comm]
  | case6 value notFloat notBool notInt =>
    simp only [reduceCtorEq, false_iff]
    rintro ⟨_, number, rfl, _⟩
    exact notInt number rfl

/-! ## Rows -/

namespace StoredCondition

/-- The words of a row are known, and its threshold is an integer out of the range of doubles. -/
structure OutOfRange (row : Fields) : Prop where
  metric : ∃ metric : Metric, row.getD "metric" = Vocabulary.toValue metric
  comparison : ∃ comparison : Comparison, row.getD "operator" = Vocabulary.toValue comparison
  threshold : ∃ number : Int,
    row.getD "threshold" = .int number ∧ Double.integerLimit ≤ |number|

variable {row : Fields} {stored : StoredCondition}

/-- A word that is found in a column is known. -/
theorem word_found {α : Type} [Vocabulary α] [Vocabulary.Lawful α] {name : String} {member : α}
    (found : (row.get? name).bind Vocabulary.ofValue? = some member) :
    row.getD name = Vocabulary.toValue member := by
  obtain ⟨value, given, named⟩ := Option.bind_eq_some_iff.mp found
  rw [Fields.getD_given given]
  exact (Vocabulary.of_value_iff value member).mp named

/-- Why a row is not read: it is out of range, or it is not and an integer that is too long to be
written stands in its identifier. A row of the second kind is damaged, since its identifier is no
text, and noting the damage fails. -/
inductive Unread (row : Fields) : Failure → Prop where
  | outOfRange (beyond : OutOfRange row) : Unread row .outOfRange
  | unwritable (within : ¬ OutOfRange row) (overlong : (row.getD "id").Overlong) :
      Unread row (.tooManyDigits none)

/-- An identifier that cannot be written is no text, so that its row is misplaced. -/
theorem overlong_displaced (overlong : (row.getD "id").Overlong) : ¬ Placed row := by
  rintro ⟨⟨id, named⟩, _, _⟩
  rw [named] at overlong
  obtain ⟨number, listed, _⟩ := overlong
  cases id <;> simp [Value.ofText?, Value.integers] at listed

/-- A row that is out of range is not read. -/
theorem out_of_range_unread (beyond : OutOfRange row) : ofRow row = .error .outOfRange := by
  obtain ⟨⟨metric, metricNamed⟩, ⟨comparison, comparisonNamed⟩, threshold⟩ := beyond
  rw [named_row_read metricNamed comparisonNamed, (threshold_refused_iff _ _).mpr ⟨rfl, threshold⟩]

/-- A row in range with an unknown word or no number for its threshold is kept, if it can be. -/
theorem illegible_kept (within : ¬ OutOfRange row) (illegible : ¬ Legible row) :
    ofRow row = keep row := by
  by_cases named : ∃ (metric : Metric) (comparison : Comparison),
      row.getD "metric" = Vocabulary.toValue metric ∧
        row.getD "operator" = Vocabulary.toValue comparison
  · obtain ⟨metric, comparison, metricNamed, comparisonNamed⟩ := named
    rw [named_row_read metricNamed comparisonNamed]
    match outcome : storedThreshold? (row.getD "threshold") with
    | .error failure =>
      obtain ⟨_, beyond⟩ := (threshold_refused_iff _ _).mp outcome
      exact (within ⟨⟨metric, metricNamed⟩, ⟨comparison, comparisonNamed⟩, beyond⟩).elim
    | .ok none => rfl
    | .ok (some threshold) =>
      have legible : Legible row :=
        ⟨⟨metric, metricNamed⟩, ⟨comparison, comparisonNamed⟩, threshold, outcome⟩
      exact (illegible legible).elim
  · unfold ofRow
    split
    · next metric comparison metricFound comparisonFound =>
      exact (named ⟨metric, comparison, word_found metricFound, word_found comparisonFound⟩).elim
    · rfl

/-- A row in range whose identifiers or order are wrong is kept, if it can be. -/
theorem displaced_kept (within : ¬ OutOfRange row) (displaced : ¬ Placed row) :
    ofRow row = keep row := by
  by_cases legible : Legible row
  · exact legible_displaced legible displaced
  · exact illegible_kept within legible

/-- A row in range whose identifier can be written is read. -/
theorem writable_read (within : ¬ OutOfRange row) (writable : ¬ (row.getD "id").Overlong) :
    ∃ stored, ofRow row = .ok stored := by
  by_cases legible : Legible row
  · by_cases placed : Placed row
    · obtain ⟨condition, sound⟩ := legible_placed legible placed
      exact ⟨_, sound⟩
    · exact ⟨_, (legible_displaced legible placed).trans (keep_ok writable)⟩
  · exact ⟨_, (illegible_kept within legible).trans (keep_ok writable)⟩

/-- Reading a row fails for these two reasons and for no other. -/
theorem refused_iff {failure : Failure} : ofRow row = .error failure ↔ Unread row failure := by
  constructor
  · intro refused
    by_cases beyond : OutOfRange row
    · cases (out_of_range_unread beyond).symm.trans refused
      exact .outOfRange beyond
    · by_cases overlong : (row.getD "id").Overlong
      · have kept := displaced_kept beyond (overlong_displaced overlong)
        cases (kept.trans (keep_refused overlong)).symm.trans refused
        exact .unwritable beyond overlong
      · obtain ⟨stored, read⟩ := writable_read beyond overlong
        cases read.symm.trans refused
  · rintro (beyond | ⟨within, overlong⟩)
    · exact out_of_range_unread beyond
    · exact (displaced_kept within (overlong_displaced overlong)).trans (keep_refused overlong)

/-- A condition keeps what its row has for the identifier of a group, whether it was read as sound
or as damaged. -/
theorem group_kept (read : ofRow row = .ok stored) :
    stored.condition.groupId = row.getD "group_id" := by
  cases stored with
  | damaged condition =>
    have same : condition = (kept row).condition := damaged_kept read
    rw [same]
    rfl
  | sound condition =>
    obtain ⟨metric, comparison, threshold, valid⟩ : ∃ metric comparison threshold,
        checked row metric comparison threshold = .valid condition := by
      have unkept : keep row ≠ .ok (.sound condition) := fun kept => by cases kept_of_keep kept
      simp only [ofRow] at read
      repeat' split at read
      all_goals first | exact (unkept read).elim | cases read
      exact ⟨_, _, _, ‹_›⟩
    obtain ⟨_, _, upToThreshold, _, rfl⟩ := Checked.seq_valid.mp valid
    obtain ⟨_, _, upToComparison, _, rfl⟩ := Checked.seq_valid.mp upToThreshold
    obtain ⟨_, _, upToMetric, _, rfl⟩ := Checked.seq_valid.mp upToComparison
    obtain ⟨_, _, upToGroup, _, rfl⟩ := Checked.seq_valid.mp upToMetric
    obtain ⟨_, groupId, upToId, grouped, rfl⟩ := Checked.seq_valid.mp upToGroup
    obtain ⟨_, _, rfl⟩ := Checked.map_valid.mp upToId
    exact (nullable_text_iff.mp (Checked.under_valid.mp grouped)).symm

end StoredCondition

namespace Database

/-! ## Rows among others -/

/-- Why no condition comes of a row that is read with others. It is not read, or it is and the
identifier of its group is no key. -/
inductive Refuses (row : Fields) : Failure → Prop where
  | unread {failure : Failure} (unread : StoredCondition.Unread row failure) : Refuses row failure
  | list (read : ∀ failure, ¬ StoredCondition.Unread row failure) (items : List Value)
    (grouped : row.getD "group_id" = .list items) : Refuses row (.unhashable "list")
  | record (read : ∀ failure, ¬ StoredCondition.Unread row failure) (fields : Fields)
    (grouped : row.getD "group_id" = .record fields) : Refuses row (.unhashable "dict")

/-- Nothing is wrong with a row that would keep others from being read. -/
def Usable (row : Fields) : Prop := ∀ failure, ¬ Refuses row failure

variable {row : Fields} {failure : Failure}

/-- A row that is read is a condition under the identifier of its group, if that can be one. -/
theorem read_row {stored : StoredCondition} (read : StoredCondition.ofRow row = .ok stored) :
    conditionOfRow row =
      (nameable (row.getD "group_id")).map fun _ => (row.getD "group_id", stored.condition) := by
  rw [conditionOfRow, read, ← StoredCondition.group_kept read]
  cases named : nameable stored.condition.groupId <;>
    simp only [bind, Except.bind, pure, Except.pure, Except.map, named]

/-- Every value can be looked up but lists and records. -/
theorem unnameable_iff {value : Value} :
    nameable value = .error failure ↔
      (∃ items, value = .list items ∧ failure = .unhashable "list") ∨
        ∃ fields, value = .record fields ∧ failure = .unhashable "dict" := by
  cases value with
  | list items => simp [nameable, eq_comm]
  | record fields => simp [nameable, eq_comm]
  | null | bool _ | int _ | float _ | text _ | time _ => simp [nameable]

/-- A row that is read fails to become a condition of some group exactly where the group has no
name. -/
theorem unnamed_group_iff {stored : StoredCondition}
    (read : StoredCondition.ofRow row = .ok stored) :
    conditionOfRow row = .error failure ↔ nameable (row.getD "group_id") = .error failure := by
  rw [read_row read]
  cases nameable (row.getD "group_id") with
  | error reason => simp [Except.map]
  | ok _ => simp [Except.map]

/-- A row fails to become a condition of some group exactly for these reasons. -/
theorem condition_refused_iff : conditionOfRow row = .error failure ↔ Refuses row failure := by
  cases outcome : StoredCondition.ofRow row with
  | error reason =>
    have unread := StoredCondition.refused_iff.mp outcome
    have failed : conditionOfRow row = .error reason := by
      rw [conditionOfRow, outcome]
      rfl
    rw [failed]
    constructor
    · rintro ⟨⟩
      exact .unread unread
    · rintro (other | read | read)
      · have refused := StoredCondition.refused_iff.mpr other
        exact congrArg _ (Except.error.inj (outcome.symm.trans refused))
      · exact (read reason unread).elim
      · exact (read reason unread).elim
  | ok stored =>
    have read : ∀ failure, ¬ StoredCondition.Unread row failure := by
      intro reason unread
      cases outcome.symm.trans (StoredCondition.refused_iff.mpr unread)
    rw [unnamed_group_iff outcome, unnameable_iff]
    constructor
    · rintro (⟨items, grouped, rfl⟩ | ⟨fields, grouped, rfl⟩)
      · exact .list read items grouped
      · exact .record read fields grouped
    · rintro (unread | ⟨_, items, grouped⟩ | ⟨_, fields, grouped⟩)
      · exact (read _ unread).elim
      · exact .inl ⟨items, grouped, rfl⟩
      · exact .inr ⟨fields, grouped, rfl⟩

/-- A usable row is a condition under the identifier of its group. -/
theorem Usable.read (usable : Usable row) :
    ∃ stored, StoredCondition.ofRow row = .ok stored ∧
      conditionOfRow row = .ok (row.getD "group_id", stored.condition) := by
  cases outcome : StoredCondition.ofRow row with
  | error failure => exact (usable failure (.unread (StoredCondition.refused_iff.mp outcome))).elim
  | ok stored =>
    refine ⟨stored, rfl, ?_⟩
    cases named : nameable (row.getD "group_id") with
    | error failure =>
      have refused := (unnamed_group_iff outcome).mpr named
      exact (usable failure (condition_refused_iff.mp refused)).elim
    | ok _ =>
      rw [read_row outcome, named]
      rfl

/-- Usable rows are read together, each as it is read alone. -/
theorem conditions_read {rows : List Fields} (usable : ∀ row ∈ rows, Usable row) :
    ∃ conditions : List StoredCondition,
      List.Forall₂ (fun row stored => StoredCondition.ofRow row = .ok stored) rows conditions ∧
        rows.mapM conditionOfRow = .ok (List.zipWith
          (fun row stored => (row.getD "group_id", stored.condition)) rows conditions) := by
  induction rows with
  | nil => exact ⟨[], .nil, rfl⟩
  | cons row rest inductionHypothesis =>
    rw [List.forall_mem_cons] at usable
    obtain ⟨stored, read, own⟩ := usable.1.read
    obtain ⟨conditions, each, others⟩ := inductionHypothesis usable.2
    refine ⟨stored :: conditions, .cons read each, ?_⟩
    rw [List.mapM_cons, own, others]
    rfl

/-- Reading rows together fails as reading the first row does that is not usable. -/
theorem conditions_refused {before : List Fields} (after : List Fields)
    (earlier : ∀ other ∈ before, Usable other) (refuses : Refuses row failure) :
    (before ++ row :: after).mapM conditionOfRow = .error failure := by
  induction before with
  | nil =>
    rw [List.nil_append, List.mapM_cons, condition_refused_iff.mpr refuses]
    rfl
  | cons other rest inductionHypothesis =>
    rw [List.forall_mem_cons] at earlier
    obtain ⟨stored, _, own⟩ := earlier.1.read
    rw [List.cons_append, List.mapM_cons, own, inductionHypothesis earlier.2]
    rfl

/-! ## Rules -/

variable {rules groups conditions : List Fields}

/-- The rows that a server gives for rules, groups and conditions are read in the opposite order,
each list as a whole. -/
theorem loading_read {address : String} {query : Statement} {link : Link}
    (loads : link.server.Loads address link.trace query rules groups conditions)
    (someRules : rules ≠ []) (someGroups : groups ≠ [])
    (ruleKeys : ∀ rule ∈ rules, ∃ id, rule.get? "id" = some id)
    (groupKeys : ∀ group ∈ groups, ∃ id, group.get? "id" = some id) :
    rulesOf address query link =
      Act.ofExcept (conditions.mapM conditionOfRow >>= fun entries =>
          groups.mapM (groupOfRow entries) >>= fun found => rulesOfRows found rules)
        (link.after (loading address query rules groups) link.issued) := by
  have rulesFilled : rules.isEmpty = false := by simpa using someRules
  have groupsFilled : groups.isEmpty = false := by simpa using someGroups
  have groupsRead := groups_read (by simpa using someRules) someGroups
    (loads.findsGroups someRules).rows_apply (ids_of_keyed groupKeys)
    (loads.findsConditions someRules someGroups).rows_apply
  have loaded := rules_read loads.opens loads.findsRules.rows_apply (ids_of_keyed ruleKeys)
    groupsRead
  rw [Link.after_after] at loaded
  rw [loaded, bind_assoc]
  simp only [loading, childQueries, rulesFilled, groupsFilled, Bool.false_eq_true, if_false]
  rfl

/-- One row can keep all the others from being loaded, for three reasons only. Reading a row fails
exactly where its words are known and its threshold is an integer that no double is near to, or else
where an integer that is too long to be written stands in its identifier. A condition that was read
finds no group exactly where the identifier of the group is a list or a record. Where none of this
is the case of any row, the rules that a query gives are made of the conditions of all rows, each as
it is read alone, and otherwise loading them fails as reading the first such row does. -/
theorem unusable_rows_abort (row : Fields) (address : String) (query : Statement) (link : Link)
    (rules groups conditions : List Fields) :
    (∀ failure, StoredCondition.ofRow row = .error failure ↔ StoredCondition.Unread row failure) ∧
      (∀ failure, conditionOfRow row = .error failure ↔ Refuses row failure) ∧
      (link.server.Loads address link.trace query rules groups conditions →
        rules ≠ [] → groups ≠ [] → (∀ rule ∈ rules, ∃ id, rule.get? "id" = some id) →
        (∀ group ∈ groups, ∃ id, group.get? "id" = some id) →
        ((∀ row ∈ conditions, Usable row) → ∃ found : List StoredCondition,
          List.Forall₂ (fun row stored => StoredCondition.ofRow row = .ok stored)
              conditions found ∧
            rulesOf address query link =
              Act.ofExcept (groups.mapM (groupOfRow (List.zipWith
                  (fun row stored => (row.getD "group_id", stored.condition)) conditions found)) >>=
                fun made => rulesOfRows made rules)
                (link.after (loading address query rules groups) link.issued)) ∧
        (∀ before after failure, conditions = before ++ row :: after →
          (∀ earlier ∈ before, Usable earlier) → Refuses row failure →
          rulesOf address query link =
            .error failure (link.after (loading address query rules groups) link.issued))) := by
  refine ⟨fun _ => StoredCondition.refused_iff, fun _ => condition_refused_iff, ?_⟩
  intro loads someRules someGroups ruleKeys groupKeys
  have run := loading_read loads someRules someGroups ruleKeys groupKeys
  constructor
  · intro usable
    obtain ⟨found, each, read⟩ := conditions_read usable
    refine ⟨found, each, ?_⟩
    rw [run, read]
    rfl
  · intro before after failure split earlier refuses
    rw [run, split, conditions_refused after earlier refuses]
    rfl

/-- A row that is sound but for its threshold. -/
def vastRow : Fields :=
  [("id", .text "c6"), ("group_id", .text "g1"), ("metric", .text "clicks"),
    ("operator", .text "gt"), ("threshold", .int (10 ^ 400)), ("sort_order", .int 1)]

/-- A damaged row, of a group under a list. -/
def listedRow : Fields := [("id", .text "c7"), ("group_id", .list [.text "g1"])]

/-- A damaged row under an identifier that cannot be written. -/
def unwritableRow : Fields :=
  [("id", .int (10 ^ Text.mostDigits : Nat)), ("metric", .text "likes"), ("operator", .text "gt"),
    ("threshold", .int 1)]

/-- The words of the row are known, and its threshold is beyond all doubles. -/
theorem vast_row_out_of_range : StoredCondition.OutOfRange vastRow :=
  ⟨⟨.clicks, rfl⟩, ⟨.greater, rfl⟩, 10 ^ 400, rfl, by decide +kernel⟩

/-- No metric has the name in the row, so that it is damaged whatever its threshold is. -/
theorem unwritable_row_unread : StoredCondition.Unread unwritableRow (.tooManyDigits none) := by
  refine .unwritable ?_ ⟨_, List.mem_singleton_self _, Nat.le_refl _⟩
  rintro ⟨⟨metric, named⟩, _, _⟩
  have known := (Vocabulary.of_value_iff (.text "likes") metric).mpr named
  have unknown : (Vocabulary.ofValue? (.text "likes") : Option Metric) = none := by decide
  cases unknown.symm.trans known

/-- The row names no metric and has a short identifier, so that it is read. -/
theorem listed_row_read (failure : Failure) : ¬ StoredCondition.Unread listedRow failure := by
  rintro (⟨⟨metric, ⟨⟩⟩, _, _⟩ | ⟨_, number, listed, _⟩)
  cases listed

/-- Conditions as they are usually stored are usable, whatever their threshold is. -/
theorem condition_stored_usable (id groupId metric : String) (threshold : Double) :
    Usable (conditionStored id groupId metric threshold) := by
  rintro failure (unread | ⟨_, items, ⟨⟩⟩ | ⟨_, fields, ⟨⟩⟩)
  rcases unread with ⟨_, _, number, ⟨⟩, _⟩ | ⟨_, number, listed, _⟩
  cases listed

/-- The database with three more conditions, none of which is usable. -/
def spoiledShelf : Server :=
  { shelf with
    execute := fun trace statement =>
      match statement with
      | .selectConditions _ =>
        .ok ⟨.ok (storedConditions ++ [vastRow, listedRow, unwritableRow]), 8⟩
      | other => shelf.execute trace other }

/-- Each of the three rows is refused for a reason of its own, and the first of them, which comes
after five that are usable, is the reason why none of the rules is loaded. -/
theorem sample_spoiled :
    let link : Link := ⟨spoiledShelf, [], ⟨5, none⟩, 0⟩
    StoredCondition.ofRow vastRow = .error .outOfRange ∧
      StoredCondition.ofRow unwritableRow = .error (.tooManyDigits none) ∧
      conditionOfRow listedRow = .error (.unhashable "list") ∧
      rulesOf "local" .selectActiveRules link = .error .outOfRange
        (link.after (loading "local" .selectActiveRules storedRules storedGroups) 0) := by
  intro link
  have usable : ∀ row ∈ storedConditions, Usable row := by
    simp [storedConditions, condition_stored_usable]
  have alone (row : Fields) := unusable_rows_abort row "local" .selectActiveRules link storedRules
    storedGroups (storedConditions ++ [vastRow, listedRow, unwritableRow])
  refine ⟨((alone vastRow).1 _).mpr (.outOfRange vast_row_out_of_range),
    ((alone unwritableRow).1 _).mpr unwritable_row_unread,
    ((alone listedRow).2.1 _).mpr (.list listed_row_read _ rfl), ?_⟩
  refine ((alone vastRow).2.2 ?_ ?_ ?_ ?_ ?_).2 storedConditions [listedRow, unwritableRow]
    .outOfRange rfl usable (.unread (.outOfRange vast_row_out_of_range))
  · exact ⟨rfl, ⟨_, rfl, rfl⟩, fun _ => ⟨_, rfl, rfl⟩, fun _ _ => ⟨_, rfl, rfl⟩⟩
  · simp [storedRules]
  · simp [storedGroups]
  · simp [storedRules, ruleStored, Fields.get?]
  · simp [storedGroups, groupStored, Fields.get?]

/-- Rows that no condition comes of, and rows that are read alone but not together. A threshold
beyond the doubles is enough for the first, a list in the place of a group's identifier for the
second. -/
theorem rows_unread :
    (¬ ∀ row, ∃ stored, StoredCondition.ofRow row = .ok stored) ∧
      ¬ ∀ rows : List Fields, (∀ row ∈ rows, ∃ stored, StoredCondition.ofRow row = .ok stored) →
        ∃ entries, rows.mapM conditionOfRow = .ok entries := by
  constructor
  · intro always
    obtain ⟨stored, read⟩ := always vastRow
    rw [StoredCondition.refused_iff.mpr (.outOfRange vast_row_out_of_range)] at read
    cases read
  · intro always
    obtain ⟨entries, read⟩ := always [listedRow] (by simpa using ⟨_, rfl⟩)
    cases read

end Database

end AdRules

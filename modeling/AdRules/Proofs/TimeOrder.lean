import AdRules.Proofs.StoreLookup
import Mathlib.Data.List.Induction

/-!
# Orders in time

Times with and without an offset cannot be put in order with each other. Where all are of one kind,
sorting by time keeps entries of one time in the order in which they came, and looking for the
latest entry finds the first of those that no other is later than.
-/

namespace AdRules

/-- Some of the times have an offset and some have none. This is the one case in which they cannot
be put in order. -/
def Timestamp.Mixed (times : List Timestamp) : Prop :=
  (∃ time ∈ times, time.isAware = true) ∧ ∃ time ∈ times, time.isAware = false

/-- Times can be put in order exactly when they are not mixed. -/
theorem Timestamp.uniform_eq_false_iff {times : List Timestamp} :
    Timestamp.uniform times = false ↔ Timestamp.Mixed times := by
  simp only [uniform, Mixed, Bool.or_eq_false_iff, List.all_eq_false, Bool.not_eq_true,
    Bool.not_eq_false']
  exact and_comm

/-- Times can be put in order exactly if they are not mixed. -/
theorem Timestamp.uniform_iff {times : List Timestamp} :
    Timestamp.uniform times = true ↔ ¬ Timestamp.Mixed times := by
  rw [← uniform_eq_false_iff, Bool.not_eq_false]

/-! ## Sorting -/

section Sorting

variable {α : Type} {before : α → α → Bool} {entries : List α}

/-- Sorting does not move the entries that are on a level with one of them: they are a sorted part
of the list, so they come in their order, and there are as many of them as before. -/
theorem level_entries_kept
    (trans : ∀ a b c, before a b = true → before b c = true → before a c = true)
    (total : ∀ a b, (before a b || before b a) = true) (entry : α) :
    (entries.mergeSort before).filter (fun other => before entry other && before other entry) =
      entries.filter (fun other => before entry other && before other entry) := by
  let level := fun other => before entry other && before other entry
  have sorted : (entries.filter level).Pairwise fun first second => before first second = true := by
    apply List.pairwise_of_forall_mem_list
    intro first isFirst second isSecond
    have firstLevel := (List.mem_filter.mp isFirst).2
    have secondLevel := (List.mem_filter.mp isSecond).2
    simp only [level, Bool.and_eq_true] at firstLevel secondLevel
    exact trans _ _ _ firstLevel.2 secondLevel.1
  have part : (entries.filter level).Sublist ((entries.mergeSort before).filter level) := by
    have kept := (List.sublist_mergeSort trans total sorted List.filter_sublist).filter level
    simpa only [List.filter_filter, Bool.and_self] using kept
  have sameLength : (entries.filter level).length =
      ((entries.mergeSort before).filter level).length :=
    (((List.mergeSort_perm entries before).filter level).length_eq).symm
  exact (part.eq_of_length sameLength).symm

/-- Sorting is stable: what holds between earlier and later entries still holds between entries on a
level. -/
theorem sorted_stably (trans : ∀ a b c, before a b = true → before b c = true → before a c = true)
    (total : ∀ a b, (before a b || before b a) = true) {inOrder : α → α → Prop}
    (given : entries.Pairwise inOrder) :
    (entries.mergeSort before).Pairwise fun first second =>
      before first second = true ∧ (before second first = true → inOrder first second) := by
  rw [List.pairwise_iff_forall_sublist]
  intro first second pair
  have sorted : before first second = true :=
    List.pairwise_iff_forall_sublist.mp (List.pairwise_mergeSort trans total entries) pair
  refine ⟨sorted, ?_⟩
  intro back
  have reflexive : before first first = true := by simpa using total first first
  have level := pair.filter fun other => before first other && before other first
  rw [level_entries_kept trans total first] at level
  simp only [List.filter_cons, reflexive, sorted, back, Bool.and_self, if_true,
    List.filter_nil] at level
  exact List.pairwise_iff_forall_sublist.mp given (level.trans List.filter_sublist)

end Sorting

/-! ## The latest entry -/

section Latest

variable {α : Type} {time : α → Timestamp}

/-- The entry is the first of those that no other of the entries is later than. -/
def FirstLatest (time : α → Timestamp) (entries : List α) (found : α) : Prop :=
  ∃ earlier later, entries = earlier ++ found :: later ∧
    (∀ entry ∈ earlier, (time entry).instant < (time found).instant) ∧
    ∀ entry ∈ later, (time entry).instant ≤ (time found).instant

/-- Going through entries for the latest one finds the first of the latest. By induction on the
entries from their end: another one is found only if it is later than all before it. -/
theorem later_first_latest (first : α) (rest : List α) :
    FirstLatest time (first :: rest) (rest.foldl (laterOf time) first) := by
  induction rest using List.reverseRecOn with
  | nil => exact ⟨[], [], rfl, by simp, by simp⟩
  | append_singleton rest next inductionHypothesis =>
    obtain ⟨earlier, later, split, less, notMore⟩ := inductionHypothesis
    rw [List.foldl_append, List.foldl_cons, List.foldl_nil, laterOf]
    split
    · next isLater =>
      refine ⟨first :: rest, [], by simp, ?_, by simp⟩
      intro entry member
      rw [split] at member
      rcases List.mem_append.mp member with before | after
      · exact Int.lt_trans (less entry before) isLater
      · rcases List.mem_cons.mp after with rfl | after
        · exact isLater
        · exact Int.lt_of_le_of_lt (notMore entry after) isLater
    · next notLater =>
      refine ⟨earlier, later ++ [next], ?_, less, ?_⟩
      · rw [← List.cons_append, split]
        simp
      · intro entry member
        rcases List.mem_append.mp member with before | last
        · exact notMore entry before
        · rw [List.mem_singleton.mp last]
          exact Int.not_lt.mp notLater

/-- Looking for the latest entry finds nothing among no entries, fails among times that are mixed,
and finds the first of the latest otherwise. -/
theorem latest_course (time : α → Timestamp) (entries : List α) :
    (entries = [] ∧ latest? time entries = .ok none) ∨
      (Timestamp.Mixed (entries.map time) ∧ latest? time entries = .error .mixedTimes) ∨
      (¬ Timestamp.Mixed (entries.map time) ∧
        ∃ found, FirstLatest time entries found ∧ latest? time entries = .ok (some found)) := by
  cases entries with
  | nil => exact .inl ⟨rfl, rfl⟩
  | cons first rest =>
    right
    by_cases uniform : Timestamp.uniform ((first :: rest).map time) = true
    · right
      exact ⟨Timestamp.uniform_iff.mp uniform, _, later_first_latest first rest, if_pos uniform⟩
    · left
      exact ⟨Timestamp.uniform_eq_false_iff.mp (Bool.eq_false_iff.mpr uniform), if_neg uniform⟩

end Latest

end AdRules

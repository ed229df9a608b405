import AdRules.Proofs.TriggerMeaning

/-!
# Corrupted conditions

A condition in which the metric or the comparison is no known word, or the threshold is nothing that
figures can be compared with, never holds. Conditions are joined by "all" and "any" alone, so a rule
in which some conditions were corrupted is triggered only by readings that trigger the rule itself:
corruption can suppress a trigger but never create one.

Being triggered is what evaluating a rule comes to unless it fails. Evaluation is free of the
failure for conditions that are readable (`RawCondition.writable_of_readable`), and for all
conditions where the stored integers and the figures are short enough to be written
(`RawCondition.writable_of_short`). A corrupted rule that is evaluated to true says by
`corrupted_evaluated` that the rule itself would be, unless that one fails.
-/

namespace AdRules

/-- A value that names no member of a vocabulary: a text that is none of its words, or no text at
all. -/
def Vocabulary.Unknown (α : Type) [Vocabulary α] (stored : Value) : Prop :=
  ∀ member : α, stored ≠ toValue member

/-- A value that nothing is compared with: not-a-number, or no number at all. -/
inductive Value.Incomparable : Value → Prop where
  | nan : Incomparable (.float .nan)
  | null : Incomparable .null
  | text (content : String) : Incomparable (.text content)
  | time (moment : Timestamp) : Incomparable (.time moment)
  | list (items : List Value) : Incomparable (.list items)
  | record (fields : Fields) : Incomparable (.record fields)

/-- What is found in the place of a condition: the condition itself, or one in which the metric, the
comparison or the threshold was replaced by what makes no sense there. -/
structure RawCondition.Corrupted (original found : RawCondition) : Prop where
  id : found.id = original.id
  groupId : found.groupId = original.groupId
  metric : found.metric = original.metric ∨ Vocabulary.Unknown Metric found.metric
  comparison : found.comparison = original.comparison ∨
    Vocabulary.Unknown Comparison found.comparison
  threshold : found.threshold = original.threshold ∨ found.threshold.Incomparable
  order : found.order = original.order

/-- What is found in the place of a group: the group with any number of its conditions corrupted. -/
structure RawGroup.Corrupted (original found : RawGroup) : Prop where
  id : found.id = original.id
  ruleId : found.ruleId = original.ruleId
  junction : found.junction = original.junction
  order : found.order = original.order
  conditions : List.Forall₂ RawCondition.Corrupted original.conditions found.conditions

variable {metrics other : Metrics}

/-! ## Conditions -/

/-- What nothing is compared with denotes no extended real. -/
theorem Value.Incomparable.denotes_nothing {value : Value} (incomparable : value.Incomparable) :
    value.extended? = none := by
  cases incomparable <;> rfl

namespace RawCondition

/-- A condition with an unknown metric, an unknown comparison or a threshold that nothing is
compared with does not hold. -/
theorem not_holds {raw : RawCondition} (senseless : Vocabulary.Unknown Metric raw.metric ∨
    Vocabulary.Unknown Comparison raw.comparison ∨ raw.threshold.Incomparable) :
    ¬ raw.Holds metrics := by
  rintro ⟨metric, comparison, figure, threshold, named, compared, _, denoted, _⟩
  rcases senseless with unknown | unknown | incomparable
  · exact unknown metric named
  · exact unknown comparison compared
  · rw [incomparable.denotes_nothing] at denoted
    cases denoted

/-- A condition that holds after it was corrupted was not changed. -/
theorem Corrupted.holds {original found : RawCondition} (corrupted : original.Corrupted found)
    (holds : found.Holds metrics) : original.Holds metrics := by
  have metric : found.metric = original.metric :=
    corrupted.metric.resolve_right fun unknown => not_holds (.inl unknown) holds
  have comparison : found.comparison = original.comparison :=
    corrupted.comparison.resolve_right fun unknown => not_holds (.inr (.inl unknown)) holds
  have threshold : found.threshold = original.threshold :=
    corrupted.threshold.resolve_right fun senseless => not_holds (.inr (.inr senseless)) holds
  simpa only [Holds, metric, comparison, threshold] using holds

end RawCondition

/-! ## Groups and rules -/

section Pairs

variable {α : Type} {left right : List α} {strong weak : α → Prop}

/-- Where each entry that is strong has a weak partner, and all entries are strong, all partners are
weak. -/
theorem all_of_pairs
    (paired : List.Forall₂ (fun entry partner => strong entry → weak partner) left right)
    (all : ∀ entry ∈ left, strong entry) : ∀ partner ∈ right, weak partner := by
  induction paired with
  | nil => simp
  | cons first _ inductionHypothesis =>
    rw [List.forall_mem_cons] at all ⊢
    exact ⟨first all.1, inductionHypothesis all.2⟩

/-- Where each entry that is strong has a weak partner, and one entry is strong, one partner is
weak. -/
theorem some_of_pairs
    (paired : List.Forall₂ (fun entry partner => strong entry → weak partner) left right)
    (one : ∃ entry ∈ left, strong entry) : ∃ partner ∈ right, weak partner := by
  induction paired with
  | nil => simp at one
  | cons first _ inductionHypothesis =>
    rw [List.exists_mem_cons_iff] at one ⊢
    exact one.imp first inductionHypothesis

end Pairs

/-- Groups are monotone in their conditions, whichever junction joins them: where each condition
that holds for one reading has a partner that holds for another, a group that holds for the one has
a partner that holds for the other. -/
theorem RawGroup.holds_mono {group partner : RawGroup} (same : partner.junction = group.junction)
    (paired : List.Forall₂ (fun condition weaker : RawCondition =>
      condition.Holds metrics → weaker.Holds other) group.conditions partner.conditions)
    (holds : group.Holds metrics) : partner.Holds other := by
  rw [Holds, same]
  refine holds.imp ?_ ?_
  · rintro ⟨joined, all⟩
    exact ⟨joined, all_of_pairs paired all⟩
  · rintro ⟨joined, one⟩
    exact ⟨joined, some_of_pairs paired one⟩

/-- A group that holds after some of its conditions were corrupted held before. -/
theorem RawGroup.Corrupted.holds {original found : RawGroup} (corrupted : original.Corrupted found)
    (holds : found.Holds metrics) : original.Holds metrics :=
  RawGroup.holds_mono corrupted.junction.symm
    (corrupted.conditions.flip.imp fun _ _ changed => changed.holds) holds

/-- A rule of which some conditions were corrupted is triggered only by readings that trigger the
rule itself. -/
theorem corrupted_triggers {rule : Rule} {groups found : List RawGroup}
    (corrupted : List.Forall₂ RawGroup.Corrupted groups found)
    (triggered : { rule with groups := found.map RawGroup.group }.triggers metrics = true) :
    { rule with groups := groups.map RawGroup.group }.triggers metrics = true := by
  rw [Rule.triggers_iff] at triggered ⊢
  exact some_of_pairs (corrupted.flip.imp fun _ _ changed => changed.holds) triggered

/-- A corrupted rule that is evaluated to true tells the same of the rule itself, where no line
about a condition of that rule is beyond writing. Nothing is asked of the corrupted one, since it
was evaluated. -/
theorem corrupted_evaluated {rule : Rule} {groups found : List RawGroup}
    (corrupted : List.Forall₂ RawGroup.Corrupted groups found)
    (writable : ¬ ∃ group ∈ groups, group.Unwritable metrics)
    (evaluated : { rule with groups := found.map RawGroup.group }.evaluate metrics = .ok true) :
    { rule with groups := groups.map RawGroup.group }.evaluate metrics = .ok true :=
  Rule.evaluated_follows (corrupted_triggers corrupted) writable evaluated

/-- A rule without groups. -/
def emptyRule : Rule :=
  ⟨"Clicks", none, .sendNotification, none, "id-1", true, 0, none, none, none, none, [], none⟩

end AdRules

import AdRules.Proofs.CorruptedRules

/-!
# Monotone triggers

Comparisons by "gt" and "gte" go on holding when the figure grows or the threshold is lowered, those
by "lt" and "lte" when the figure shrinks or the threshold is raised. Groups and rules join
conditions by "all" and "any" alone, so a rule inherits the direction of its conditions, and easing
thresholds never keeps it from being triggered. Order is that of the extended reals that numbers
denote, whether they are integers, doubles or infinities.

Being triggered is what evaluating a rule comes to unless it fails. A condition that means something
is free of the failure for every reading (`RawCondition.Meaningful.writable`); one that means
nothing is so where the stored integers and the figures are short enough to be written
(`RawCondition.writable_of_short`). With that, evaluation to true is monotone as well
(`evaluated_larger`, `evaluated_smaller`, `evaluated_eased`).
-/

namespace AdRules

/-- Both sides denote extended reals, the first at most the second. Not-a-number is at most nothing
and nothing is at most it. -/
def AtMost (lower upper : Option EReal) : Prop :=
  ∃ left right, lower = some left ∧ upper = some right ∧ left ≤ right

/-- No figure of a reading is beyond that of another, each being compared as the extended real that
it denotes. So both readings are free of not-a-number. -/
def Metrics.AtMost (lower upper : Metrics) : Prop :=
  ∀ metric, AdRules.AtMost (lower.value metric).extended? (upper.value metric).extended?

namespace Comparison

/-- A comparison that asks for large figures. A condition that holds by one still holds when the
figure grows. -/
inductive Rising : Comparison → Prop where
  | greater : Rising .greater
  | atLeast : Rising .atLeast

/-- A comparison that asks for small figures. A condition that holds by one still holds when the
figure shrinks. -/
inductive Falling : Comparison → Prop where
  | less : Falling .less
  | atMost : Falling .atMost

end Comparison

namespace RawCondition

/-- The condition means something: it names a metric and this comparison, and has a threshold that
figures can be compared with. -/
structure Meaningful (raw : RawCondition) (comparison : Comparison) : Prop where
  metric : ∃ metric : Metric, raw.metric = Vocabulary.toValue metric
  comparison : raw.comparison = Vocabulary.toValue comparison
  threshold : ∃ bound, raw.threshold.extended? = some bound

/-- The condition compares in a certain way, unless it means nothing. -/
def Asks (raw : RawCondition) (kind : Comparison → Prop) : Prop :=
  ∀ comparison, raw.Meaningful comparison → kind comparison

/-- What a condition is after its threshold was left as it is, or made easier to reach: lowered for
a comparison that asks for large figures, raised for one that asks for small figures. -/
structure Eased (original eased : RawCondition) : Prop where
  id : eased.id = original.id
  groupId : eased.groupId = original.groupId
  metric : eased.metric = original.metric
  comparison : eased.comparison = original.comparison
  threshold : eased.threshold = original.threshold ∨
    (original.Asks Comparison.Rising ∧
      AtMost eased.threshold.extended? original.threshold.extended?) ∨
    original.Asks Comparison.Falling ∧
      AtMost original.threshold.extended? eased.threshold.extended?
  order : eased.order = original.order

end RawCondition

namespace RawGroup

/-- All conditions of some groups that mean anything compare in a certain way. -/
def AllAsk (kind : Comparison → Prop) (groups : List RawGroup) : Prop :=
  ∀ group ∈ groups, ∀ condition ∈ group.conditions, condition.Asks kind

/-- What a group is after any number of its conditions were eased. -/
structure Eased (original eased : RawGroup) : Prop where
  id : eased.id = original.id
  ruleId : eased.ruleId = original.ruleId
  junction : eased.junction = original.junction
  order : eased.order = original.order
  conditions : List.Forall₂ RawCondition.Eased original.conditions eased.conditions

end RawGroup

/-! ## Comparisons -/

namespace Comparison

section Relations

variable {comparison : Comparison} {figure other bound moved : EReal}

/-- What asks for large figures is true of a larger figure and a lower threshold as well. -/
theorem Rising.relation (rising : comparison.Rising) (larger : figure ≤ other)
    (lowered : moved ≤ bound) (related : comparison.relation figure bound) :
    comparison.relation other moved := by
  cases rising with
  | greater => exact lowered.trans_lt (lt_of_lt_of_le related larger)
  | atLeast => exact lowered.trans (le_trans related larger)

/-- What asks for small figures is true of a smaller figure and a higher threshold as well. -/
theorem Falling.relation (falling : comparison.Falling) (smaller : other ≤ figure)
    (raised : bound ≤ moved) (related : comparison.relation figure bound) :
    comparison.relation other moved := by
  cases falling with
  | less => exact smaller.trans_lt (lt_of_lt_of_le related raised)
  | atMost => exact smaller.trans (le_trans related raised)

end Relations

/-- Both sides denote extended reals that stand in the relation of a comparison. -/
def Stands (comparison : Comparison) (figure bound : Option EReal) : Prop :=
  ∃ left right, figure = some left ∧ bound = some right ∧ comparison.relation left right

variable {comparison : Comparison} {figure other bound moved : Option EReal}

/-- A comparison that asks for large figures stands when the figure grows and the bound is lowered.
Both sides denote extended reals then, since not-a-number is beyond nothing. -/
theorem Rising.stands (rising : comparison.Rising) (larger : AtMost figure other)
    (lowered : AtMost moved bound) (stands : comparison.Stands figure bound) :
    comparison.Stands other moved := by
  obtain ⟨_, _, rfl, rfl, related⟩ := stands
  obtain ⟨_, further, ⟨⟩, rfl, beyond⟩ := larger
  obtain ⟨nearer, _, rfl, ⟨⟩, below⟩ := lowered
  exact ⟨further, nearer, rfl, rfl, rising.relation beyond below related⟩

/-- A comparison that asks for small figures stands when the figure shrinks and the bound is raised.
-/
theorem Falling.stands (falling : comparison.Falling) (smaller : AtMost other figure)
    (raised : AtMost bound moved) (stands : comparison.Stands figure bound) :
    comparison.Stands other moved := by
  obtain ⟨_, _, rfl, rfl, related⟩ := stands
  obtain ⟨nearer, _, rfl, ⟨⟩, below⟩ := smaller
  obtain ⟨_, further, ⟨⟩, rfl, beyond⟩ := raised
  exact ⟨nearer, further, rfl, rfl, falling.relation below beyond related⟩

/-- What stands in a comparison is at most itself, which not-a-number is not. -/
theorem Stands.figure_refl (stands : comparison.Stands figure bound) : AtMost figure figure := by
  obtain ⟨place, _, rfl, _⟩ := stands
  exact ⟨place, place, rfl, rfl, le_rfl⟩

/-- So is the bound, which is what stays when only figures change. -/
theorem Stands.bound_refl (stands : comparison.Stands figure bound) : AtMost bound bound := by
  obtain ⟨_, limit, _, rfl, _⟩ := stands
  exact ⟨limit, limit, rfl, rfl, le_rfl⟩

end Comparison

/-! ## Conditions -/

variable {metrics other : Metrics}

namespace RawCondition

variable {raw : RawCondition}

/-- A condition that holds means something, which its threshold and the figure of its metric stand
in. -/
theorem Holds.stands (holds : raw.Holds metrics) :
    ∃ metric comparison, raw.metric = Vocabulary.toValue metric ∧ raw.Meaningful comparison ∧
      comparison.Stands (metrics.value metric).extended? raw.threshold.extended? := by
  obtain ⟨metric, comparison, figure, bound, named, compared, figured, bounded, related⟩ := holds
  exact ⟨metric, comparison, named, ⟨⟨metric, named⟩, compared, bound, bounded⟩,
    figure, bound, figured, bounded, related⟩

/-- A condition that names a metric and a comparison holds where its figure and its threshold stand
in the comparison. -/
theorem holds_of_stands {metric : Metric} {comparison : Comparison}
    (named : raw.metric = Vocabulary.toValue metric)
    (compared : raw.comparison = Vocabulary.toValue comparison)
    (stands : comparison.Stands (metrics.value metric).extended? raw.threshold.extended?) :
    raw.Holds metrics := by
  obtain ⟨figure, bound, figured, bounded, related⟩ := stands
  exact ⟨metric, comparison, figure, bound, named, compared, figured, bounded, related⟩

/-- The comparison that a condition names decides what it asks for. -/
theorem asks_of_comparison {kind : Comparison → Prop} (comparison : Comparison)
    (compared : raw.comparison = Vocabulary.toValue comparison) (asked : kind comparison) :
    raw.Asks kind := by
  intro other meaningful
  have named := (Vocabulary.of_value_iff raw.comparison comparison).mpr compared
  have alike := (Vocabulary.of_value_iff raw.comparison other).mpr meaningful.comparison
  have same : comparison = other := Option.some.inj (named.symm.trans alike)
  exact same ▸ asked

/-- A condition that asks for large figures goes on holding when the figures grow. -/
theorem Asks.holds_larger (asks : raw.Asks Comparison.Rising) (larger : metrics.AtMost other)
    (holds : raw.Holds metrics) : raw.Holds other := by
  obtain ⟨metric, comparison, named, meaningful, stands⟩ := holds.stands
  have rising : comparison.Rising := asks comparison meaningful
  exact holds_of_stands named meaningful.comparison
    (rising.stands (larger metric) stands.bound_refl stands)

/-- A condition that asks for small figures goes on holding when the figures shrink. -/
theorem Asks.holds_smaller (asks : raw.Asks Comparison.Falling) (smaller : other.AtMost metrics)
    (holds : raw.Holds metrics) : raw.Holds other := by
  obtain ⟨metric, comparison, named, meaningful, stands⟩ := holds.stands
  have falling : comparison.Falling := asks comparison meaningful
  exact holds_of_stands named meaningful.comparison
    (falling.stands (smaller metric) stands.bound_refl stands)

/-- A condition that was eased holds wherever it held before. -/
theorem Eased.holds {original eased : RawCondition} (easing : original.Eased eased)
    (holds : original.Holds metrics) : eased.Holds metrics := by
  obtain ⟨metric, comparison, named, meaningful, stands⟩ := holds.stands
  refine holds_of_stands (easing.metric.trans named)
    (easing.comparison.trans meaningful.comparison) ?_
  rcases easing.threshold with unchanged | ⟨rising, lowered⟩ | ⟨falling, raised⟩
  · rwa [unchanged]
  · exact (rising comparison meaningful).stands stands.figure_refl lowered stands
  · exact (falling comparison meaningful).stands stands.figure_refl raised stands

end RawCondition

/-! ## Groups and rules -/

/-- Where the conditions that hold for one reading hold for another, the groups do as well. -/
theorem RawGroup.holds_follows {groups : List RawGroup}
    (follows : ∀ group ∈ groups, ∀ condition ∈ group.conditions,
      condition.Holds metrics → condition.Holds other)
    (holds : ∃ group ∈ groups, group.Holds metrics) : ∃ group ∈ groups, group.Holds other := by
  obtain ⟨group, member, holds⟩ := holds
  refine ⟨group, member, RawGroup.holds_mono rfl ?_ holds⟩
  rw [List.forall₂_same]
  exact follows group member

/-- A group of which some conditions were eased holds wherever it held before. -/
theorem RawGroup.Eased.holds {original eased : RawGroup} (easing : original.Eased eased)
    (holds : original.Holds metrics) : eased.Holds metrics :=
  RawGroup.holds_mono easing.junction
    (easing.conditions.imp fun _ _ condition => condition.holds) holds

section Rules

variable {rule : Rule} {groups eased : List RawGroup} {lower upper : Metrics}

/-- A rule that asks for large figures alone stays triggered when no figure shrinks. -/
theorem larger_triggers (larger : lower.AtMost upper)
    (rising : RawGroup.AllAsk Comparison.Rising groups)
    (triggered : { rule with groups := groups.map RawGroup.group }.triggers lower = true) :
    { rule with groups := groups.map RawGroup.group }.triggers upper = true := by
  rw [Rule.triggers_iff] at triggered ⊢
  exact RawGroup.holds_follows (fun group member condition inside =>
    (rising group member condition inside).holds_larger larger) triggered

/-- A rule that asks for small figures alone stays triggered when none grows. -/
theorem smaller_triggers (smaller : lower.AtMost upper)
    (falling : RawGroup.AllAsk Comparison.Falling groups)
    (triggered : { rule with groups := groups.map RawGroup.group }.triggers upper = true) :
    { rule with groups := groups.map RawGroup.group }.triggers lower = true := by
  rw [Rule.triggers_iff] at triggered ⊢
  exact RawGroup.holds_follows (fun group member condition inside =>
    (falling group member condition inside).holds_smaller smaller) triggered

/-- A rule of which some thresholds were eased is triggered by what triggered it before. -/
theorem eased_triggers (easing : List.Forall₂ RawGroup.Eased groups eased)
    (triggered : { rule with groups := groups.map RawGroup.group }.triggers metrics = true) :
    { rule with groups := eased.map RawGroup.group }.triggers metrics = true := by
  rw [Rule.triggers_iff] at triggered ⊢
  exact some_of_pairs (easing.imp fun _ _ group => group.holds) triggered

/-- A condition that means something is evaluated for every reading without a failure, since nothing
has to be noted about it. -/
theorem RawCondition.Meaningful.writable {raw : RawCondition} {comparison : Comparison}
    (meaningful : raw.Meaningful comparison) : ¬ raw.Unwritable metrics := by
  obtain ⟨⟨metric, named⟩, compared, bound, denoted⟩ := meaningful
  rw [Value.extended?_eq, Option.bind_eq_some_iff] at denoted
  obtain ⟨number, numbered, _⟩ := denoted
  exact writable_of_readable named compared numbered

/-- A figure that is too long to be written is so as well after it has grown. Amounts are never too
long; between counts the order is that of the integers. -/
theorem Metrics.AtMost.overlong (atMost : lower.AtMost upper) {metric : Metric}
    (long : (lower.value metric).toValue.Overlong) : (upper.value metric).toValue.Overlong := by
  have count {fewer more : Nat} (ordered : AdRules.AtMost (Number.int fewer).extended?
      (Number.int more).extended?) (long : Value.Overlong (.int fewer)) :
      Value.Overlong (.int more) := by
    obtain ⟨_, _, ⟨⟩, ⟨⟩, below⟩ := ordered
    have within : fewer ≤ more := by exact_mod_cast below
    obtain ⟨number, listed, digits⟩ := long
    obtain rfl := List.mem_singleton.mp listed
    exact ⟨_, List.mem_singleton_self _, digits.trans within⟩
  have amount {value : Double} {goal : Prop} (long : Value.Overlong (.float value)) : goal := by
    obtain ⟨_, listed, _⟩ := long
    cases listed
  have ordered := atMost metric
  cases metric with
  | clicks | reach | impressions | inlineLinkClicks => exact count ordered long
  | spend | costPerInlineLinkClick | frequency | cpc | ctr => exact amount long

/-- What cannot be written about a condition for a reading cannot be written for one with larger
figures. -/
theorem RawCondition.Unwritable.larger {raw : RawCondition} (atMost : lower.AtMost upper)
    (unwritable : raw.Unwritable lower) : raw.Unwritable upper := by
  cases unwritable with
  | metric unknown long => exact .metric unknown long
  | comparison metric named unknown long => exact .comparison metric named unknown long
  | threshold metric comparison named compared ordered unnumbered long =>
    exact .threshold metric comparison named compared ordered unnumbered
      (long.imp_left atMost.overlong)

/-- What cannot be written about an eased condition could not be written before, since a threshold
that was moved is a number. -/
theorem RawCondition.Eased.unwritable {original eased : RawCondition}
    (easing : original.Eased eased) (unwritable : eased.Unwritable metrics) :
    original.Unwritable metrics := by
  cases unwritable with
  | metric unknown long =>
    rw [easing.id, easing.metric] at long
    exact .metric (fun metric => easing.metric ▸ unknown metric) long
  | comparison metric named unknown long =>
    rw [easing.id, easing.comparison] at long
    exact .comparison metric (easing.metric ▸ named)
      (fun comparison => easing.comparison ▸ unknown comparison) long
  | threshold metric comparison named compared ordered unnumbered long =>
    have placeless : eased.threshold.extended? = none := by
      rw [Value.extended?_eq, unnumbered, Option.bind_none]
    have unchanged : eased.threshold = original.threshold := by
      rcases easing.threshold with same | ⟨_, _, _, placed, _⟩ | ⟨_, _, _, _, placed, _⟩
      · exact same
      · cases placeless.symm.trans placed
      · cases placeless.symm.trans placed
    rw [unchanged] at unnumbered long
    exact .threshold metric comparison (easing.metric ▸ named) (easing.comparison ▸ compared)
      ordered unnumbered long

/-- Where a rule made of stored values is evaluated to true, no line about it is beyond writing. -/
theorem writable_of_evaluated
    (evaluated : { rule with groups := groups.map RawGroup.group }.evaluate metrics = .ok true) :
    ¬ ∃ group ∈ groups, group.Unwritable metrics := by
  intro unwritable
  rw [(rule.evaluated groups metrics).1 unwritable] at evaluated
  cases evaluated

/-- What a rule is evaluated to stays true when no figure shrinks, unless a figure becomes too long
to be written about a condition that means nothing. -/
theorem evaluated_larger (larger : lower.AtMost upper)
    (rising : RawGroup.AllAsk Comparison.Rising groups)
    (writable : ¬ ∃ group ∈ groups, group.Unwritable upper)
    (evaluated : { rule with groups := groups.map RawGroup.group }.evaluate lower = .ok true) :
    { rule with groups := groups.map RawGroup.group }.evaluate upper = .ok true :=
  Rule.evaluated_follows (larger_triggers larger rising) writable evaluated

/-- What a rule is evaluated to stays true when no figure grows. Nothing else is asked, since
smaller figures are not longer. -/
theorem evaluated_smaller (smaller : lower.AtMost upper)
    (falling : RawGroup.AllAsk Comparison.Falling groups)
    (evaluated : { rule with groups := groups.map RawGroup.group }.evaluate upper = .ok true) :
    { rule with groups := groups.map RawGroup.group }.evaluate lower = .ok true := by
  refine Rule.evaluated_follows (smaller_triggers smaller falling) ?_ evaluated
  rintro ⟨group, member, condition, inside, unwritable⟩
  exact writable_of_evaluated evaluated
    ⟨group, member, condition, inside, unwritable.larger smaller⟩

/-- What a rule is evaluated to stays true when some of its thresholds are eased. -/
theorem evaluated_eased (easing : List.Forall₂ RawGroup.Eased groups eased)
    (evaluated : { rule with groups := groups.map RawGroup.group }.evaluate metrics = .ok true) :
    { rule with groups := eased.map RawGroup.group }.evaluate metrics = .ok true := by
  refine Rule.evaluated_follows (eased_triggers easing) ?_ evaluated
  intro unwritable
  refine writable_of_evaluated evaluated ?_
  exact some_of_pairs (easing.flip.imp fun _ _ group =>
    some_of_pairs (group.conditions.flip.imp fun _ _ condition => condition.unwritable)) unwritable

end Rules

/-- Triggering is monotone. Numbers that stand in a comparison by "gt" or "gte" still do when the
first grows and the second shrinks, those in one by "lt" or "lte" when the first shrinks and the
second grows. A rule that asks for large figures alone, whatever else is stored in it that means
nothing, stays triggered when no figure shrinks, one that asks for small figures when none grows,
and easing any number of thresholds of a rule leaves every reading that triggered it a trigger. The
failure of an evaluation is left outside; it takes a condition whose metric, comparison or threshold
means nothing, and an integer of more digits than are written. -/
theorem triggering_monotone :
    (∀ (comparison : Comparison) (figure other bound moved : Number),
      (comparison.Rising → AtMost figure.extended? other.extended? →
          AtMost moved.extended? bound.extended? → comparison.compares figure bound = true →
          comparison.compares other moved = true) ∧
        (comparison.Falling → AtMost other.extended? figure.extended? →
          AtMost bound.extended? moved.extended? → comparison.compares figure bound = true →
          comparison.compares other moved = true)) ∧
      (∀ (rule : Rule) (groups : List RawGroup) (lower upper : Metrics), lower.AtMost upper →
        (RawGroup.AllAsk Comparison.Rising groups →
          { rule with groups := groups.map RawGroup.group }.triggers lower = true →
          { rule with groups := groups.map RawGroup.group }.triggers upper = true) ∧
        (RawGroup.AllAsk Comparison.Falling groups →
          { rule with groups := groups.map RawGroup.group }.triggers upper = true →
          { rule with groups := groups.map RawGroup.group }.triggers lower = true)) ∧
      ∀ (rule : Rule) (groups eased : List RawGroup) (metrics : Metrics),
        List.Forall₂ RawGroup.Eased groups eased →
        { rule with groups := groups.map RawGroup.group }.triggers metrics = true →
        { rule with groups := eased.map RawGroup.group }.triggers metrics = true := by
  refine ⟨?_, ?_, ?_⟩
  · intro comparison figure other bound moved
    simp only [Comparison.compares_iff]
    exact ⟨Comparison.Rising.stands, Comparison.Falling.stands⟩
  · intro rule groups lower upper atMost
    exact ⟨larger_triggers atMost, smaller_triggers atMost⟩
  · intro rule groups eased metrics easing
    exact eased_triggers easing

/-- A group that asks for more clicks than the double nearest to their number, beside a condition
that means nothing. -/
def risingGroup : RawGroup :=
  ⟨some "id-2", some "id-1", .text "OR", 0,
    [{ sampleCondition with metric := .list [], comparison := .text "eq" }, sampleCondition]⟩

/-- The group with its threshold lowered to an infinity. -/
def easedGroup : RawGroup :=
  { risingGroup with
    conditions := [{ sampleCondition with metric := .list [], comparison := .text "eq" },
      { sampleCondition with threshold := .float (.infinity true) }] }

/-- A group that asks for no clicks, the threshold being false. -/
def fallingGroup : RawGroup :=
  ⟨some "id-2", some "id-1", .text "AND", 0,
    [{ sampleCondition with comparison := .text "lte", threshold := .bool false }]⟩

/-- Each part at work: an infinite figure that exceeds a lowered bound, a figure below a raised one,
a rule that asks for more clicks beside a condition without meaning, one that asks for none, and a
threshold eased to an infinity. -/
theorem sample_monotone :
    Comparison.compares .greater (.float (.infinity false)) (.int 0) = true ∧
      Comparison.compares .less (.int 0) (.float (.infinity false)) = true ∧
      { emptyRule with groups := [risingGroup].map RawGroup.group }.triggers
        ⟨.infinity false, 9007199254740994, 0, 0, 0, .zero, .zero, .zero, .zero⟩ = true ∧
      { emptyRule with groups := [fallingGroup].map RawGroup.group }.triggers
        ⟨.zero, 0, 0, 0, 0, .zero, .zero, .zero, .zero⟩ = true ∧
      { emptyRule with groups := [easedGroup].map RawGroup.group }.triggers
        ⟨.zero, 9007199254740993, 0, 0, 0, .zero, .zero, .zero, .zero⟩ = true := by
  have figures (lower upper : Number) (ordered : Comparison.compares .atMost lower upper = true) :
      AtMost lower.extended? upper.extended? :=
    (Comparison.compares_iff .atMost lower upper).mp ordered
  have more : Metrics.AtMost
      ⟨.zero, 9007199254740993, 0, 0, 0, .zero, .zero, .zero, .zero⟩
      ⟨.infinity false, 9007199254740994, 0, 0, 0, .zero, .zero, .zero, .zero⟩ := by
    intro metric
    exact figures _ _ (by cases metric <;> decide +kernel)
  have fewer : Metrics.AtMost ⟨.zero, 0, 0, 0, 0, .zero, .zero, .zero, .zero⟩
      ⟨.infinity false, 0, 0, 0, 0, .zero, .zero, .zero, .zero⟩ := by
    intro metric
    exact figures _ _ (by cases metric <;> decide +kernel)
  have nothing : RawCondition.Asks
      { sampleCondition with metric := .list [], comparison := .text "eq" }
      Comparison.Rising := by
    rintro comparison ⟨⟨metric, ⟨⟩⟩, _, _⟩
  have rising : sampleCondition.Asks Comparison.Rising :=
    RawCondition.asks_of_comparison .greater rfl .greater
  have falling : RawCondition.Asks
      { sampleCondition with comparison := .text "lte", threshold := .bool false }
      Comparison.Falling :=
    RawCondition.asks_of_comparison .atMost rfl .atMost
  have eased : risingGroup.Eased easedGroup :=
    ⟨rfl, rfl, rfl, rfl, .cons ⟨rfl, rfl, rfl, rfl, .inl rfl, rfl⟩
      (.cons ⟨rfl, rfl, rfl, rfl, .inr (.inl ⟨rising, figures (.float (.infinity true))
        (.float (Double.ofInt 9007199254740992)) (by decide +kernel)⟩), rfl⟩ .nil)⟩
  refine ⟨?_, ?_, ?_, ?_, ?_⟩
  · exact (triggering_monotone.1 .greater (.int 9007199254740993) (.float (.infinity false))
      (.float (Double.ofInt 9007199254740992)) (.int 0)).1 .greater
      (figures _ _ (by decide +kernel)) (figures _ _ (by decide +kernel)) (by decide +kernel)
  · exact (triggering_monotone.1 .less (.float (Double.ofInt 9007199254740992)) (.int 0)
      (.int 9007199254740993) (.float (.infinity false))).2 .less
      (figures _ _ (by decide +kernel)) (figures _ _ (by decide +kernel)) (by decide +kernel)
  · exact (triggering_monotone.2.1 emptyRule [risingGroup] _ _ more).1
      (by simp [RawGroup.AllAsk, risingGroup, nothing, rising]) (by decide +kernel)
  · exact (triggering_monotone.2.1 emptyRule [fallingGroup] _ _ fewer).2
      (by simp [RawGroup.AllAsk, fallingGroup, falling]) (by decide +kernel)
  · exact triggering_monotone.2.2 emptyRule [risingGroup] [easedGroup] _ (.cons eased .nil)
      (by decide +kernel)

end AdRules

import AdRules.Evaluation
import AdRules.Proofs.Checks
import AdRules.Store
import Mathlib.Data.List.Nodup

/-!
# Rules made from drafts

A rule that is made from a sound draft has a proper name and holds groups and conditions that are
numbered by their positions, belong to what they stand in and compare known metrics with finite
thresholds. Rule, groups and conditions take the identifiers that a supply issues next, each in its
turn. The rule is triggered when its draft says so.
-/

namespace AdRules

/-! ## What a sound rule is -/

/-- A condition that stands at a position of a group, with nothing unknown in it. -/
structure Condition.SoundIn (groupId : Option String) (position : Nat) (condition : Condition) :
    Prop where
  ofGroup : condition.groupId = .ofText? groupId
  placed : condition.order = .int position
  metric : ∃ metric, condition.metric = .known metric
  comparison : ∃ comparison, condition.comparison = .known comparison
  threshold : ∃ threshold, condition.threshold = .float threshold ∧ threshold.isFinite = true

/-- A group that stands at a position of a rule and holds sound conditions. -/
structure ConditionGroup.SoundIn (ruleId : String) (position : Nat) (group : ConditionGroup) :
    Prop where
  ofRule : group.ruleId = some ruleId
  placed : group.order = position
  junction : ∃ junction, group.junction = .known junction
  filled : group.conditions ≠ []
  conditions : ∀ (position : Nat) (condition : Condition),
    group.conditions[position]? = some condition → condition.SoundIn group.id position

/-- A rule with a sound name that holds sound groups, each of which knows its rule and its position.
-/
structure Rule.Sound (rule : Rule) : Prop where
  name : SoundName rule.name
  filled : rule.groups ≠ []
  groups : ∀ (position : Nat) (group : ConditionGroup),
    rule.groups[position]? = some group → group.SoundIn rule.id position

/-- The identifiers of a group and its conditions. -/
def ConditionGroup.identifiers (group : ConditionGroup) : List Value :=
  .ofText? group.id :: group.conditions.map (·.id)

/-- The identifiers of a rule, its groups and their conditions. -/
def Rule.identifiers (rule : Rule) : List Value :=
  .text rule.id :: rule.groups.flatMap ConditionGroup.identifiers

/-! ## Building from drafts -/

variable [IdSupply]

/-- The identifiers issued from one count up to another, in the order of their issue. -/
def issuedIds (issued count : Nat) : List Value :=
  (List.range' issued count).map fun number => .text (freshId number)

/-- No two of the identifiers issued in a row are equal. -/
theorem issued_ids_nodup (issued count : Nat) : (issuedIds issued count).Nodup := by
  refine (List.nodup_range' (s := issued) (n := count)).map ?_
  intro first second same
  exact fresh_id_injective (Value.text.inj same)

/-- The identifiers issued in a row are those whose numbers lie in the row. -/
theorem mem_issued_ids {issued count : Nat} {id : Value} :
    id ∈ issuedIds issued count ↔
      ∃ number, issued ≤ number ∧ number < issued + count ∧ id = .text (freshId number) := by
  simp only [issuedIds, List.mem_map, List.mem_range'_1]
  constructor
  · rintro ⟨number, ⟨lower, upTo⟩, rfl⟩
    exact ⟨number, lower, upTo, rfl⟩
  · rintro ⟨number, lower, upTo, rfl⟩
    exact ⟨number, ⟨lower, upTo⟩, rfl⟩

/-- Conditions take the identifiers that are issued for them, in order. -/
theorem condition_ids (groupId : String) (order issued : Nat) (drafts : List ConditionDraft) :
    (Condition.ofDrafts groupId order issued drafts).map (·.id) =
      issuedIds issued drafts.length := by
  induction drafts generalizing order issued with
  | nil => rfl
  | cons draft rest inductionHypothesis =>
    simp only [Condition.ofDrafts, List.map_cons, inductionHypothesis, List.length_cons, issuedIds,
      List.range'_succ]

/-- Groups and their conditions take the identifiers that are issued for them, in order. -/
theorem group_ids (ruleId : String) (order issued : Nat) (drafts : List GroupDraft) :
    (ConditionGroup.ofDrafts ruleId order issued drafts).flatMap ConditionGroup.identifiers =
      issuedIds issued (GroupDraft.idCount drafts) := by
  induction drafts generalizing order issued with
  | nil => rfl
  | cons draft rest inductionHypothesis =>
    have split : GroupDraft.idCount (draft :: rest) =
        (draft.conditions.length + GroupDraft.idCount rest) + 1 := by
      simp only [GroupDraft.idCount]
      omega
    simp only [ConditionGroup.ofDrafts, List.flatMap_cons, inductionHypothesis,
      ConditionGroup.identifiers, condition_ids, Value.ofText?, split, issuedIds, List.range'_succ,
      List.map_cons, List.cons_append, ← List.range'_append_1, List.map_append]

/-- Groups made from drafts have distinct identifiers. -/
theorem group_ids_nodup (ruleId : String) (order issued : Nat) (drafts : List GroupDraft) :
    ((ConditionGroup.ofDrafts ruleId order issued drafts).map (·.id)).Nodup := by
  have identifiers : ((ConditionGroup.ofDrafts ruleId order issued drafts).flatMap
      ConditionGroup.identifiers).Nodup :=
    group_ids ruleId order issued drafts ▸ issued_ids_nodup issued (GroupDraft.idCount drafts)
  rw [List.Nodup, List.pairwise_map]
  refine (List.nodup_flatMap.mp identifiers).2.imp ?_
  intro first second disjoint same
  have inFirst : Value.ofText? first.id ∈ first.identifiers := List.mem_cons_self
  have inSecond : Value.ofText? first.id ∈ second.identifiers := same ▸ List.mem_cons_self
  exact disjoint inFirst inSecond

/-- Conditions made from drafts are numbered from the first position on and sound. -/
theorem conditions_sound (groupId : String) (order issued : Nat) (drafts : List ConditionDraft)
    (finite : ∀ draft ∈ drafts, draft.threshold.isFinite = true) (position : Nat)
    (condition : Condition)
    (placed : (Condition.ofDrafts groupId order issued drafts)[position]? = some condition) :
    condition.SoundIn (some groupId) (order + position) := by
  induction drafts generalizing order issued position with
  | nil => simp [Condition.ofDrafts] at placed
  | cons draft rest inductionHypothesis =>
    cases position with
    | zero =>
      simp only [Condition.ofDrafts, List.getElem?_cons_zero, Option.some.injEq] at placed
      subst placed
      exact ⟨rfl, rfl, ⟨_, rfl⟩, ⟨_, rfl⟩, ⟨_, rfl, finite draft List.mem_cons_self⟩⟩
    | succ position =>
      simp only [Condition.ofDrafts, List.getElem?_cons_succ] at placed
      have later := inductionHypothesis (order + 1) (issued + 1)
        (fun other member => finite other (List.mem_cons_of_mem _ member)) position placed
      rwa [Nat.add_right_comm] at later

/-- Groups made from sound drafts are numbered from the first position on and sound. -/
theorem groups_sound (ruleId : String) (order issued : Nat) (drafts : List GroupDraft)
    (sound : ∀ draft ∈ drafts, draft.Sound) (position : Nat) (group : ConditionGroup)
    (placed : (ConditionGroup.ofDrafts ruleId order issued drafts)[position]? = some group) :
    group.SoundIn ruleId (order + position) := by
  induction drafts generalizing order issued position with
  | nil => simp [ConditionGroup.ofDrafts] at placed
  | cons draft rest inductionHypothesis =>
    cases position with
    | zero =>
      simp only [ConditionGroup.ofDrafts, List.getElem?_cons_zero, Option.some.injEq] at placed
      subst placed
      have first := sound draft List.mem_cons_self
      refine ⟨rfl, rfl, ⟨_, rfl⟩, ?_, ?_⟩
      · intro empty
        have none := congrArg List.length empty
        cases given : draft.conditions with
        | nil => exact first.filled given
        | cons condition others => simp [given, Condition.ofDrafts] at none
      · intro position condition within
        have inGroup := conditions_sound (freshId issued) 0 (issued + 1) draft.conditions
          first.finite position condition within
        rwa [Nat.zero_add] at inGroup
    | succ position =>
      simp only [ConditionGroup.ofDrafts, List.getElem?_cons_succ] at placed
      have later := inductionHypothesis (order + 1) _
        (fun other member => sound other (List.mem_cons_of_mem _ member)) position placed
      rwa [Nat.add_right_comm] at later

/-- There are groups where there are drafts. -/
theorem groups_filled (ruleId : String) (issued : Nat) {drafts : List GroupDraft}
    (filled : drafts ≠ []) : ConditionGroup.ofDrafts ruleId 0 issued drafts ≠ [] := by
  cases drafts with
  | nil => exact absurd rfl filled
  | cons draft rest => simp [ConditionGroup.ofDrafts]

/-- Groups made from sound drafts are those of a sound rule. -/
theorem Rule.sound_of_drafts {rule : Rule} {issued : Nat} {drafts : List GroupDraft}
    (name : SoundName rule.name) (sound : GroupDraft.AllSound drafts)
    (made : rule.groups = ConditionGroup.ofDrafts rule.id 0 issued drafts) : rule.Sound where
  name := name
  filled := made ▸ groups_filled rule.id issued sound.filled
  groups := by
    intro position group placed
    have inRule := groups_sound rule.id 0 issued drafts sound.sound position group (made ▸ placed)
    rwa [Nat.zero_add] at inRule

/-! ## What a draft says -/

omit [IdSupply]

/-- The figure stands in the relation of the draft to its threshold. -/
def ConditionDraft.holds (draft : ConditionDraft) (metrics : Metrics) : Bool :=
  draft.comparison.compares (metrics.value draft.metric) (.float draft.threshold)

/-- All conditions of the draft hold, or one of them does, as they are joined. -/
def GroupDraft.holds (draft : GroupDraft) (metrics : Metrics) : Bool :=
  match draft.junction with
  | .all => draft.conditions.all (·.holds metrics)
  | .any => draft.conditions.any (·.holds metrics)

/-- One of the groups of the draft holds. -/
def RuleDraft.triggers (draft : RuleDraft) (metrics : Metrics) : Bool :=
  draft.groups.any (·.holds metrics)

/-- Whether all or any of some entries hold depends only on what holds. -/
theorem holds_of_map {α β : Type} {first : α → Bool} {second : β → Bool} {entries : List α}
    {others : List β} (same : entries.map first = others.map second) :
    entries.all first = others.all second ∧ entries.any first = others.any second := by
  have allHold := congrArg (fun held => held.all fun flag => flag) same
  have anyHold := congrArg (fun held => held.any fun flag => flag) same
  simp only [List.all_map, List.any_map] at allHold anyHold
  exact ⟨allHold, anyHold⟩

variable [IdSupply] (metrics : Metrics)

/-- The conditions of a group hold as their drafts do. -/
theorem conditions_hold (groupId : String) (order issued : Nat) (drafts : List ConditionDraft) :
    (Condition.ofDrafts groupId order issued drafts).map (·.holds metrics) =
      drafts.map (·.holds metrics) := by
  induction drafts generalizing order issued with
  | nil => rfl
  | cons draft rest inductionHypothesis =>
    simp only [Condition.ofDrafts, List.map_cons, inductionHypothesis]
    rfl

/-- A group holds as its draft does. -/
theorem group_holds (id ruleId : String) (position : Int) (issued : Nat) (draft : GroupDraft) :
    ConditionGroup.holds ⟨some id, some ruleId, .known draft.junction, position,
      Condition.ofDrafts id 0 issued draft.conditions⟩ metrics = draft.holds metrics := by
  obtain ⟨allHold, anyHold⟩ := holds_of_map (conditions_hold metrics id 0 issued draft.conditions)
  cases joined : draft.junction with
  | all => simpa only [ConditionGroup.holds, GroupDraft.holds, joined] using allHold
  | any => simpa only [ConditionGroup.holds, GroupDraft.holds, joined] using anyHold

/-- The groups of a rule hold as their drafts do. -/
theorem groups_hold (ruleId : String) (order issued : Nat) (drafts : List GroupDraft) :
    (ConditionGroup.ofDrafts ruleId order issued drafts).map (·.holds metrics) =
      drafts.map (·.holds metrics) := by
  induction drafts generalizing order issued with
  | nil => rfl
  | cons draft rest inductionHypothesis =>
    simp only [ConditionGroup.ofDrafts, List.map_cons, inductionHypothesis, group_holds]

/-- A rule is triggered as its draft says. -/
theorem Rule.triggers_of_drafts {rule : Rule} {ruleId : String} {issued : Nat} {draft : RuleDraft}
    (made : rule.groups = ConditionGroup.ofDrafts ruleId 0 issued draft.groups) :
    rule.triggers metrics = draft.triggers metrics := by
  rw [Rule.triggers, made, RuleDraft.triggers]
  exact (holds_of_map (groups_hold metrics ruleId 0 issued draft.groups)).2

end AdRules

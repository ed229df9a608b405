import AdRules.Rule
import Mathlib.Data.List.DropRight

/-!
# What passes a check

A check that finds no issue has found a value for every part, and each of these has passed its own
check. From this follows what can be relied on in drafts of rules and in changes that were checked:
names are neither blank nor too long, there are groups and conditions, and thresholds are finite.
-/

namespace AdRules

/-! ## Vocabularies -/

namespace Vocabulary

/-- Every member of a vocabulary is listed and found again by its word, which is whole. -/
class Lawful (α : Type) [Vocabulary α] : Prop where
  of_word : ∀ member : α, ofWord? (word member) = some member
  whole : ∀ member : α, Text.isWhole (word member) = true

/-- The metrics have distinct words, all of them are members, and no word has a stray half. -/
instance : Lawful Metric :=
  ⟨by intro metric; cases metric <;> decide, by intro metric; cases metric <;> decide⟩

/-- The comparisons have distinct words, all of them are members, and no word has a stray half. -/
instance : Lawful Comparison :=
  ⟨by intro comparison; cases comparison <;> decide,
    by intro comparison; cases comparison <;> decide⟩

/-- The junctions have distinct words, all of them are members, and no word has a stray half. -/
instance : Lawful Junction :=
  ⟨by intro junction; cases junction <;> decide, by intro junction; cases junction <;> decide⟩

variable {α : Type} [Vocabulary α] [Lawful α]

/-- A value names a member exactly when it is the text of its word. -/
theorem of_value_iff (value : Value) (member : α) :
    ofValue? value = some member ↔ value = toValue member := by
  constructor
  · intro named
    cases value with
    | text content =>
      have worded : (word member == content) = true :=
        List.find?_some (p := fun other : α => word other == content) named
      rw [toValue, beq_iff_eq.mp worded]
    | null | bool _ | int _ | float _ | time _ | list _ | record _ => cases named
  · rintro rfl
    exact Lawful.of_word member

/-- A stored value is read as a member exactly if it is the word of the member. So no two spellings
of a word are read alike. -/
theorem read_known_iff (value : Value) (member : α) :
    Term.read value = .known member ↔ value = toValue member := by
  rw [← of_value_iff, Term.read]
  cases ofValue? (α := α) value <;> simp

end Vocabulary

/-! ## Checks and their parts -/

namespace Checked

variable {α β : Type}

/-- A function is applied to a checked value exactly if the check was passed. -/
theorem map_valid {f : α → β} {checked : Checked α} {result : β} :
    f <$> checked = .valid result ↔ ∃ value, checked = .valid value ∧ f value = result := by
  cases checked <;> simp [Functor.map, map]

/-- Two checks made side by side succeed when both do. -/
theorem seq_valid {function : Checked (α → β)} {argument : Checked α} {result : β} :
    function <*> argument = .valid result ↔
      ∃ f value, function = .valid f ∧ argument = .valid value ∧ f value = result := by
  cases function <;> cases argument <;> simp [Seq.seq, both]

/-- A check after a check is passed exactly if both are, the second one by what the first one gave.
-/
theorem and_then_valid {checked : Checked α} {next : α → Checked β} {result : β} :
    checked.andThen next = .valid result ↔
      ∃ value, checked = .valid value ∧ next value = .valid result := by
  cases checked <;> simp [andThen]

/-- Where an issue is said to be does not decide whether there is one. -/
theorem under_valid {step : Step} {checked : Checked α} {result : α} :
    checked.under step = .valid result ↔ checked = .valid result := by
  cases checked <;> simp [under]

/-- What is a fault is not valid. -/
theorem fault_invalid (complaint : Complaint) (input : Value) (result : α) :
    fault complaint input ≠ .valid result := by
  intro valid
  cases valid

section Fields

variable {fields : Fields} {name : String} {check : Value → Checked α} {result : α}

/-- What stands in a required field has passed its check. -/
theorem required_found (valid : required fields name check = .valid result) :
    ∃ input, fields.get? name = some input ∧ check input = .valid result := by
  unfold required at valid
  split at valid
  · next input found => exact ⟨input, found, under_valid.mp valid⟩
  · cases valid

/-- What stands in an optional field has passed its check, or the default stands in for it. -/
theorem optional_found {default : α} (valid : optional fields name default check = .valid result) :
    fields.get? name = none ∧ result = default ∨
      ∃ input, fields.get? name = some input ∧ check input = .valid result := by
  unfold optional at valid
  split at valid
  · next input found => exact .inr ⟨input, found, under_valid.mp valid⟩
  · next absent =>
    cases valid
    exact .inl ⟨absent, rfl⟩

/-- A required field is there and has passed its check. -/
theorem required_valid (valid : required fields name check = .valid result) :
    ∃ input, check input = .valid result := by
  obtain ⟨input, _, passed⟩ := required_found valid
  exact ⟨input, passed⟩

/-- An optional field has passed its check, or the default stands in for it. -/
theorem optional_valid {default : α} (valid : optional fields name default check = .valid result) :
    result = default ∨ ∃ input, check input = .valid result := by
  rcases optional_found valid with ⟨_, isDefault⟩ | ⟨input, _, passed⟩
  · exact .inl isDefault
  · exact .inr ⟨input, passed⟩

end Fields

/-- What is given in the place of null has passed the check. -/
theorem nullable_valid {check : Value → Checked α} {input : Value} {result : α}
    (valid : nullable check input = .valid (some result)) : check input = .valid result := by
  unfold nullable at valid
  split at valid
  · cases valid
  · obtain ⟨value, checked, same⟩ := map_valid.mp valid
    exact Option.some.inj same ▸ checked

/-- An optional field that may be null has passed its check where something is given. -/
theorem optional_nullable_valid {fields : Fields} {name : String} {check : Value → Checked α}
    {result : α} (valid : optional fields name none (nullable check) = .valid (some result)) :
    ∃ input, check input = .valid result := by
  rcases optional_valid valid with absent | ⟨input, given⟩
  · cases absent
  · exact ⟨input, nullable_valid given⟩

/-- Every item has passed the check. -/
theorem items_from_valid {check : Value → Checked α} {position : Nat} {inputs : List Value}
    {results : List α} (valid : itemsFrom check position inputs = .valid results) :
    ∀ result ∈ results, ∃ input, check input = .valid result := by
  induction inputs generalizing position results with
  | nil =>
    cases valid
    simp
  | cons input rest inductionHypothesis =>
    obtain ⟨_, others, first, later, rfl⟩ := seq_valid.mp valid
    obtain ⟨value, checked, rfl⟩ := map_valid.mp first
    intro result member
    rcases List.mem_cons.mp member with rfl | listed
    · exact ⟨input, under_valid.mp checked⟩
    · exact inductionHypothesis later result listed

/-- A list that has to hold something does, and every item has passed the check. -/
theorem some_items_valid {check : Value → Checked α} {input : Value} {results : List α}
    (valid : someItems check input = .valid results) :
    results ≠ [] ∧ ∀ result ∈ results, ∃ item, check item = .valid result := by
  obtain ⟨values, listed, filled⟩ := and_then_valid.mp valid
  split at filled
  · cases filled
  · next holdsSome =>
    cases filled
    refine ⟨by simpa using holdsSome, ?_⟩
    cases input with
    | list inputs => exact items_from_valid listed
    | null | bool _ | int _ | float _ | text _ | time _ | record _ => cases listed

/-- A model is only valid for a record whose fields are. -/
theorem model_valid {setting : Setting} {name : String} {check : Fields → Checked α}
    {input : Value} {result : α} (valid : Check.model setting name check input = .valid result) :
    ∃ fields, check fields = .valid result := by
  cases input with
  | record fields => exact ⟨fields, valid⟩
  | null | bool _ | int _ | float _ | text _ | time _ | list _ => cases valid

end Checked

/-! ## Names -/

namespace Text

/-- Taking characters off both ends leaves none of them at the ends. -/
theorem trim_both_trimmed (drop : Char → Bool) (text : List Char) :
    trimBoth drop (trimBoth drop text) = trimBoth drop text := by
  let front := text.dropWhile drop
  have ends : trimBoth drop text = front.rdropWhile drop := rfl
  have frontKept : (front.rdropWhile drop).dropWhile drop = front.rdropWhile drop := by
    rw [List.dropWhile_eq_self_iff]
    intro filled
    have inFront : 0 < front.length :=
      filled.trans_le (List.rdropWhile_prefix drop (l := front)).length_le
    have sameHead : (front.rdropWhile drop)[0] = front[0] :=
      (List.rdropWhile_prefix drop (l := front)).getElem filled
    rw [sameHead]
    exact List.dropWhile_get_zero_not drop text inFront
  calc trimBoth drop (trimBoth drop text)
      = ((front.rdropWhile drop).dropWhile drop).rdropWhile drop := by rw [ends]; rfl
    _ = (front.rdropWhile drop).rdropWhile drop := by rw [frontKept]
    _ = trimBoth drop text := by rw [List.rdropWhile_idempotent, ends]

/-- What is left is a part of the text. -/
theorem trim_both_sublist (drop : Char → Bool) (text : List Char) :
    (trimBoth drop text).Sublist text :=
  (List.rdropWhile_prefix drop _).sublist.trans (List.dropWhile_suffix drop).sublist

/-- Stripping a text is trimming its characters at both ends; what counts as a blank is the same. -/
@[simp] theorem strip_toList (text : String) :
    (strip text).toList = trimBoth isBlank text.toList := String.toList_ofList

/-- A text that was stripped is not changed when it is stripped again. This is why a stored name is
read back as it is. -/
theorem strip_stripped (text : String) : strip (strip text) = strip text := by
  rw [strip, strip_toList, trim_both_trimmed, ← strip]

/-- Stripping makes no text longer. So a text that is short enough before is so afterwards; the
converse fails, which is why the length is looked at first. -/
theorem strip_length_le (text : String) : (strip text).length ≤ text.length := by
  rw [← String.length_toList, ← String.length_toList, strip_toList]
  exact (trim_both_sublist isBlank text.toList).length_le

/-- A part of a whole text is whole. -/
theorem strip_whole {text : String} (whole : isWhole text = true) :
    isWhole (strip text) = true := by
  rw [isWhole, strip_toList, List.all_eq_true]
  intro character member
  exact List.all_eq_true.mp whole character ((trim_both_sublist isBlank text.toList).mem member)

end Text

/-- A name that a rule can have: not empty, without blanks at its ends, not too long and whole. -/
structure SoundName (name : String) : Prop where
  filled : name ≠ ""
  stripped : Text.strip name = name
  short : name.length ≤ nameLimit
  whole : Text.isWhole name = true

/-- A name that has passed the check is sound. Whether a sound name would pass again is said by
`SoundName.checked`. -/
theorem name_sound {input : Value} {name : String} (valid : checkName input = .valid name) :
    SoundName name := by
  obtain ⟨given, filled, rest⟩ := Checked.and_then_valid.mp valid
  obtain ⟨content, isText, nonEmpty⟩ := Checked.and_then_valid.mp filled
  have whole : Text.isWhole content = true := by
    by_contra stray
    simp [Check.whole, stray, Checked.fault] at nonEmpty
  have same : given = content := by
    simp only [Check.whole, whole, if_true] at nonEmpty
    split at nonEmpty
    · cases nonEmpty
    · exact (Checked.valid.inj nonEmpty).symm
  subst same
  split at rest
  · cases rest
  · next short =>
    simp only at rest
    split at rest
    · cases rest
    · next remains =>
      cases rest
      exact ⟨by simpa using remains, Text.strip_stripped given,
        (Text.strip_length_le given).trans (Nat.le_of_not_lt short), Text.strip_whole whole⟩

/-- A sound name passes the check unchanged. -/
theorem SoundName.checked {name : String} (sound : SoundName name) :
    checkName (.text name) = .valid name := by
  have filled : name.isEmpty = false := by simpa using sound.filled
  simp [checkName, Check.nonEmptyText, Check.text, Checked.andThen, Check.whole, sound.whole,
    filled, Nat.not_lt.mpr sound.short, sound.stripped]

/-! ## Drafts -/

/-- There is a condition, and every threshold is finite. -/
structure GroupDraft.Sound (draft : GroupDraft) : Prop where
  filled : draft.conditions ≠ []
  finite : ∀ condition ∈ draft.conditions, condition.threshold.isFinite = true

/-- There is a group, and every group is sound. -/
structure GroupDraft.AllSound (drafts : List GroupDraft) : Prop where
  filled : drafts ≠ []
  sound : ∀ draft ∈ drafts, draft.Sound

/-- The name and the groups are sound. Of the other fields nothing is asked beyond their types. -/
structure RuleDraft.Sound (draft : RuleDraft) : Prop where
  name : SoundName draft.name
  groups : GroupDraft.AllSound draft.groups

/-- The name and the groups are sound where they are given. -/
structure RuleChange.Sound (change : RuleChange) : Prop where
  name : ∀ name, change.name = some name → SoundName name
  groups : ∀ groups, change.groups = some groups → GroupDraft.AllSound groups

/-- A condition that has passed the check has a finite threshold. -/
theorem condition_draft_finite {setting : Setting} {input : Value} {draft : ConditionDraft}
    (valid : ConditionDraft.check setting input = .valid draft) :
    draft.threshold.isFinite = true := by
  obtain ⟨fields, checked⟩ := Checked.model_valid valid
  obtain ⟨make, threshold, made, given, rfl⟩ := Checked.seq_valid.mp checked
  obtain ⟨makeBoth, comparison, madeBoth, _, rfl⟩ := Checked.seq_valid.mp made
  obtain ⟨metric, _, rfl⟩ := Checked.map_valid.mp madeBoth
  obtain ⟨_, passed⟩ := Checked.required_valid given
  obtain ⟨value, _, finite⟩ := Checked.and_then_valid.mp passed
  split at finite
  · next isFinite =>
    cases finite
    exact isFinite
  · cases finite

/-- A group that has passed the check is sound. -/
theorem group_draft_sound {setting : Setting} {input : Value} {draft : GroupDraft}
    (valid : GroupDraft.check setting input = .valid draft) : draft.Sound := by
  obtain ⟨fields, checked⟩ := Checked.model_valid valid
  obtain ⟨make, conditions, made, given, rfl⟩ := Checked.seq_valid.mp checked
  obtain ⟨junction, _, rfl⟩ := Checked.map_valid.mp made
  obtain ⟨_, passed⟩ := Checked.required_valid given
  obtain ⟨filled, each⟩ := Checked.some_items_valid passed
  refine ⟨filled, ?_⟩
  intro condition member
  obtain ⟨_, conditionPassed⟩ := each condition member
  exact condition_draft_finite conditionPassed

/-- Groups that have passed the check are sound, and there is one. -/
theorem group_drafts_sound {setting : Setting} {input : Value} {drafts : List GroupDraft}
    (valid : Checked.someItems (GroupDraft.check setting) input = .valid drafts) :
    GroupDraft.AllSound drafts := by
  obtain ⟨filled, each⟩ := Checked.some_items_valid valid
  refine ⟨filled, ?_⟩
  intro draft member
  obtain ⟨_, passed⟩ := each draft member
  exact group_draft_sound passed

/-- A draft of a rule that has passed the check is sound. -/
theorem rule_draft_sound {setting : Setting} {input : Value} {draft : RuleDraft}
    (valid : RuleDraft.check setting input = .valid draft) : draft.Sound := by
  obtain ⟨fields, checked⟩ := Checked.model_valid valid
  obtain ⟨_, groups, upToActive, groupsGiven, rfl⟩ := Checked.seq_valid.mp checked
  obtain ⟨_, isActive, upToValue, _, rfl⟩ := Checked.seq_valid.mp upToActive
  obtain ⟨_, actionValue, upToAction, _, rfl⟩ := Checked.seq_valid.mp upToValue
  obtain ⟨_, action, upToDescription, _, rfl⟩ := Checked.seq_valid.mp upToAction
  obtain ⟨_, description, upToName, _, rfl⟩ := Checked.seq_valid.mp upToDescription
  obtain ⟨name, nameGiven, rfl⟩ := Checked.map_valid.mp upToName
  obtain ⟨_, namePassed⟩ := Checked.required_valid nameGiven
  obtain ⟨_, groupsPassed⟩ := Checked.required_valid groupsGiven
  exact ⟨name_sound namePassed, group_drafts_sound groupsPassed⟩

/-- A change of a rule that has passed the check is sound. -/
theorem rule_change_sound {setting : Setting} {input : Value} {change : RuleChange}
    (valid : RuleChange.check setting input = .valid change) : change.Sound := by
  obtain ⟨fields, checked⟩ := Checked.model_valid valid
  obtain ⟨_, _, upToGroups, _, rfl⟩ := Checked.seq_valid.mp checked
  obtain ⟨_, groups, upToActive, groupsGiven, rfl⟩ := Checked.seq_valid.mp upToGroups
  obtain ⟨_, isActive, upToValue, _, rfl⟩ := Checked.seq_valid.mp upToActive
  obtain ⟨_, actionValue, upToAction, _, rfl⟩ := Checked.seq_valid.mp upToValue
  obtain ⟨_, action, upToDescription, _, rfl⟩ := Checked.seq_valid.mp upToAction
  obtain ⟨_, description, upToName, _, rfl⟩ := Checked.seq_valid.mp upToDescription
  obtain ⟨name, nameGiven, rfl⟩ := Checked.map_valid.mp upToName
  constructor
  · rintro _ rfl
    obtain ⟨_, namePassed⟩ := Checked.optional_nullable_valid nameGiven
    exact name_sound namePassed
  · rintro _ rfl
    obtain ⟨_, groupsPassed⟩ := Checked.optional_nullable_valid groupsGiven
    exact group_drafts_sound groupsPassed

end AdRules

import AdRules.Evaluation
import AdRules.Proofs.DraftedRules
import AdRules.Proofs.RulePass

/-!
# The soundness of stored rules

Where every draft and every change that is handed over has been checked, each stored rule has a
proper name and holds groups and conditions that are numbered by their positions, belong to what
they stand in and compare known metrics with finite thresholds. No identifier is used twice, among
rules, groups and conditions together. Changes are not checked again when they are applied, so this
rests on what was checked before, and on identifiers that are issued one after the other.
-/

namespace AdRules

/-- The identifiers of all rules, groups and conditions. -/
def Store.identifiers (store : Store) : List Value := store.rules.flatMap Rule.identifiers

/-! ## What every step keeps -/

section Steps

variable [IdSupply]

/-- All rules are sound, and their identifiers were issued and are used once. -/
structure Store.Sound (store : Store) (issued : Nat) : Prop where
  rules : ∀ rule ∈ store.rules, rule.Sound
  issuedBefore : ∀ rule ∈ store.rules, ∀ id ∈ rule.identifiers, id ∈ issuedIds 0 issued
  distinct : ∀ rule ∈ store.rules, rule.identifiers.Nodup
  apart : ∀ first ∈ store.rules, ∀ second ∈ store.rules, first.id ≠ second.id →
    first.identifiers.Disjoint second.identifiers

namespace Store

variable {store : Store} {issued more : Nat} {rule changed : Rule}

/-- Identifiers that were issued stay issued. -/
theorem issued_ids_more {id : Value} (before : id ∈ issuedIds 0 issued) :
    id ∈ issuedIds 0 (issued + more) := by
  obtain ⟨number, lower, upTo, rfl⟩ := mem_issued_ids.mp before
  exact mem_issued_ids.mpr ⟨number, lower, by omega, rfl⟩

/-- Identifiers that are issued next are issued then. -/
theorem issued_ids_next {id : Value} (next : id ∈ issuedIds issued more) :
    id ∈ issuedIds 0 (issued + more) := by
  obtain ⟨number, lower, upTo, rfl⟩ := mem_issued_ids.mp next
  exact mem_issued_ids.mpr ⟨number, Nat.zero_le _, by omega, rfl⟩

/-- Identifiers that are issued next were not issued before. -/
theorem issued_ids_fresh {id : Value} (next : id ∈ issuedIds issued more) :
    id ∉ issuedIds 0 issued := by
  intro before
  obtain ⟨number, lower, _, rfl⟩ := mem_issued_ids.mp next
  obtain ⟨earlier, _, upTo, same⟩ := mem_issued_ids.mp before
  have equal : number = earlier := fresh_id_injective (Value.text.inj same)
  omega

/-- Some of the same rules are as sound, whatever else is stored and issued. -/
theorem Sound.of_rules {other : Store} {later : Nat} (sound : store.Sound issued)
    (among : ∀ rule ∈ other.rules, rule ∈ store.rules) (more : issued ≤ later) :
    other.Sound later where
  rules := fun rule member => sound.rules rule (among rule member)
  issuedBefore := by
    intro rule member id listed
    have before := sound.issuedBefore rule (among rule member) id listed
    exact Nat.add_sub_of_le more ▸ issued_ids_more before
  distinct := fun rule member => sound.distinct rule (among rule member)
  apart := fun first isFirst second isSecond =>
    sound.apart first (among first isFirst) second (among second isSecond)

/-- One sound rule may be stored besides others, or in the place of one with its identifier, when
the others use none of its identifiers. -/
theorem Sound.besides {other : Store} {new : Rule} (sound : store.Sound issued)
    (newSound : new.Sound) (distinct : new.identifiers.Nodup)
    (issuedThen : ∀ id ∈ new.identifiers, id ∈ issuedIds 0 (issued + more))
    (aside : ∀ rule ∈ store.rules, new.id ≠ rule.id →
      new.identifiers.Disjoint rule.identifiers)
    (among : ∀ rule ∈ other.rules, rule = new ∨ rule ∈ store.rules) :
    other.Sound (issued + more) := by
  refine ⟨?_, ?_, ?_, ?_⟩
  · intro rule member
    rcases among rule member with rfl | before
    · exact newSound
    · exact sound.rules rule before
  · intro rule member id listed
    rcases among rule member with rfl | before
    · exact issuedThen id listed
    · exact issued_ids_more (sound.issuedBefore rule before id listed)
  · intro rule member
    rcases among rule member with rfl | before
    · exact distinct
    · exact sound.distinct rule before
  -- Which of the two is the new rule does not matter, and it cannot be both.
  · intro first isFirst second isSecond differs
    rcases among first isFirst with rfl | firstBefore
    · rcases among second isSecond with rfl | secondBefore
      · exact absurd rfl differs
      · exact aside second secondBefore differs
    · rcases among second isSecond with rfl | secondBefore
      · exact List.disjoint_symm (aside first firstBefore differs.symm)
      · exact sound.apart first firstBefore second secondBefore differs

/-- A rule may be replaced by a sound one under the same identifier, whose other identifiers it has
already or are issued for it. -/
theorem Sound.put (sound : store.Sound issued) (stored : rule ∈ store.rules)
    (sameId : changed.id = rule.id) (changedSound : changed.Sound)
    (distinct : changed.identifiers.Nodup)
    (origin : ∀ id ∈ changed.identifiers, id ∈ rule.identifiers ∨ id ∈ issuedIds issued more) :
    (store.putRule changed).Sound (issued + more) := by
  refine sound.besides changedSound distinct ?_ ?_ ?_
  · intro id listed
    rcases origin id listed with inRule | next
    · exact issued_ids_more (sound.issuedBefore rule stored id inRule)
    · exact issued_ids_next next
  · intro other member differs id inChanged inOther
    rcases origin id inChanged with inRule | next
    · exact sound.apart rule stored other member (sameId ▸ differs) inRule inOther
    · exact issued_ids_fresh next (sound.issuedBefore other member id inOther)
  · intro other member
    exact (mem_put_rule member).imp_right And.left

/-- A new rule takes new identifiers only. -/
theorem new_rule_ids (now : Timestamp) (issued : Nat) (draft : RuleDraft) (owner : Option String) :
    (Rule.ofDraft now issued draft owner).identifiers =
      issuedIds issued (1 + GroupDraft.idCount draft.groups) := by
  rw [Nat.add_comm]
  simp only [Rule.identifiers, Rule.ofDraft, group_ids, issuedIds, List.range'_succ, List.map_cons]

/-- A sound draft makes a sound rule, apart from those before it. -/
theorem Sound.create (sound : store.Sound issued) (now : Timestamp) {draft : RuleDraft}
    (draftSound : draft.Sound) (owner : Option String) :
    (store.createRule now issued draft owner).2.1.Sound
      (store.createRule now issued draft owner).2.2 := by
  have newIds := new_rule_ids now issued draft owner
  have issuedThen : (store.createRule now issued draft owner).2.2 =
      issued + (1 + GroupDraft.idCount draft.groups) := Nat.add_assoc _ _ _
  rw [issuedThen]
  refine sound.besides (Rule.sound_of_drafts draftSound.name draftSound.groups rfl)
    (newIds ▸ issued_ids_nodup _ _) ?_ ?_ ?_
  · intro id listed
    exact issued_ids_next (newIds ▸ listed)
  · intro other member _ id inNew inOther
    exact issued_ids_fresh (newIds ▸ inNew) (sound.issuedBefore other member id inOther)
  · intro rule member
    exact (List.mem_append.mp member).symm.imp_left List.mem_singleton.mp

/-- A change with a sound name and sound groups keeps a rule sound. -/
theorem changed_sound (ruleSound : rule.Sound) {change : RuleChange} (changeSound : change.Sound)
    (now : Timestamp) (issued : Nat) : (change.apply now issued rule).Sound := by
  have name : SoundName (change.apply now issued rule).name := by
    cases given : change.name with
    | none => simpa [RuleChange.apply, given] using ruleSound.name
    | some name => simpa [RuleChange.apply, given] using changeSound.name name given
  cases given : change.groups with
  | none =>
    have same : (change.apply now issued rule).groups = rule.groups := by
      simp only [RuleChange.apply, given]
    exact ⟨name, same ▸ ruleSound.filled, same ▸ ruleSound.groups⟩
  | some groups =>
    have made : (change.apply now issued rule).groups =
        ConditionGroup.ofDrafts rule.id 0 issued groups := by
      simp only [RuleChange.apply, given]
    exact Rule.sound_of_drafts name (changeSound.groups groups given) made

/-- A changed rule keeps its identifier, and those of its groups and conditions unless these are
replaced, which takes new ones. -/
theorem changed_ids (rule : Rule) (change : RuleChange) (now : Timestamp) (issued : Nat) :
    (change.apply now issued rule).identifiers = rule.identifiers ∨
      (change.apply now issued rule).identifiers =
        .text rule.id :: issuedIds issued change.idCount := by
  cases given : change.groups with
  | none => exact .inl (by simp only [Rule.identifiers, RuleChange.apply, given])
  | some groups =>
    refine .inr ?_
    simp only [Rule.identifiers, RuleChange.apply, RuleChange.idCount, given, group_ids]

/-- A sound change keeps all rules sound. -/
theorem Sound.change (sound : store.Sound issued) (stored : rule ∈ store.rules)
    {change : RuleChange} (changeSound : change.Sound) (now : Timestamp) :
    (store.putRule (change.apply now issued rule)).Sound (issued + change.idCount) := by
  have ownId : .text rule.id ∈ rule.identifiers := List.mem_cons_self
  have ownIssued := sound.issuedBefore rule stored _ ownId
  refine sound.put stored rfl
    (changed_sound (sound.rules rule stored) changeSound now issued) ?_ ?_
  · rcases changed_ids rule change now issued with same | renewed
    · exact same ▸ sound.distinct rule stored
    · rw [renewed, List.nodup_cons]
      exact ⟨fun next => issued_ids_fresh next ownIssued,
        issued_ids_nodup _ _⟩
  · intro id listed
    rcases changed_ids rule change now issued with same | renewed
    · exact .inl (same ▸ listed)
    · rw [renewed] at listed
      rcases List.mem_cons.mp listed with rfl | next
      · exact .inl ownId
      · exact .inr next

/-- Counting an execution for a rule keeps all rules sound. -/
theorem Sound.append (sound : store.Sound issued) (stored : rule ∈ store.rules) (now : Timestamp)
    (log : ActionLog) : (store.append now rule log).Sound issued := by
  have ruleSound := sound.rules rule stored
  have put : (store.putRule (rule.triggered log.triggeredAt now)).Sound (issued + 0) :=
    sound.put stored rfl ⟨ruleSound.name, ruleSound.filled, ruleSound.groups⟩
      (sound.distinct rule stored) fun _ listed => .inl listed
  exact put.of_rules (fun _ member => member) (Nat.le_refl issued)

end Store

end Steps

namespace Memory

/-- What a caller hands over to be stored has been checked. Of calls that store no rule nothing is
asked. -/
def Call.Checked : Call → Prop
  | .createRule draft _ => ∃ setting input, RuleDraft.check setting input = .valid draft
  | .updateRule _ change => ∃ setting input, RuleChange.check setting input = .valid change
  | _ => True

/-- Every change that a checked call makes is sound; switching changes neither name nor groups. -/
theorem change_sound {call : Call} {change : RuleChange} (checked : call.Checked)
    (made : call.Changes change) : change.Sound := by
  cases call with
  | updateRule id given =>
    obtain ⟨setting, input, passed⟩ := checked
    cases made
    exact rule_change_sound passed
  | setActive id isActive =>
    obtain ⟨flag, _, rfl⟩ := Checked.map_valid.mp made
    exact ⟨by simp, by simp⟩
  | upsertCampaign _ | latestCampaign | latestCampaignWithLogs _ | createRule _ _ | rule _ _ | rules
  | deleteRule _ | activeRules | findLog _ _ _ _ | logs _ _ | record _ | prepare => cases made

/-- The effect of a checked call keeps all rules sound. -/
theorem sound_step [IdSupply] {memory after : Memory} {call : Call} {reply : Reply}
    (checked : call.Checked)
    (effect : Effect memory call reply after) (sound : memory.store.Sound memory.issued) :
    after.store.Sound after.issued := by
  cases effect with
  | kept counted issued more shown => exact sound.of_rules (fun _ member => member) more
  | measured snapshot =>
    obtain ⟨sameRules, _, more⟩ :=
      Store.upsert_frame memory.store memory.now memory.issued snapshot
    exact sound.of_rules (fun _ member => sameRules ▸ member) more
  | created draft owner =>
    obtain ⟨setting, input, passed⟩ := checked
    exact sound.create memory.now (rule_draft_sound passed) owner
  | changed rule change found made =>
    exact sound.change (Store.mem_of_rule? found) (change_sound checked made) memory.now
  | deleted id => exact sound.of_rules (fun _ member => (List.mem_filter.mp member).1) le_rfl
  | recorded rule log issued more found first =>
    have appended := sound.append (Store.mem_of_rule? found) memory.now log
    exact appended.of_rules (fun _ member => member) more

/-- In every history of checked calls all rules are sound. -/
theorem run_sound [IdSupply] (history : List Event)
    (checked : ∀ event ∈ history, event.call.Checked) :
    (run history).store.Sound (run history).issued := by
  have empty : start.store.Sound start.issued :=
    ⟨by simp [start, Store.empty], by simp [start, Store.empty], by simp [start, Store.empty],
      by simp [start, Store.empty]⟩
  exact run_from_induction (motive := fun _ memory => memory.store.Sound memory.issued) history
    (fun _ _ event member _ _ sound effect => sound_step (checked event member) effect sound)
    [] start empty

end Memory

/-! ## Evaluating sound rules -/

/-- Evaluating the condition comes to comparing two numbers, both of which have a place on the
number line where the figure has one. -/
def Condition.Comparable (condition : Condition) : Prop :=
  ∃ metric comparison threshold place, condition.metric = .known metric ∧
    condition.comparison = .known comparison ∧ condition.threshold.number? = some threshold ∧
    threshold.level? = some place ∧
    ∀ metrics : Metrics,
      condition.holds metrics = comparison.compares (metrics.value metric) threshold

/-- There are groups to evaluate, and in each group conditions that can be compared. -/
def Rule.Evaluable (rule : Rule) : Prop :=
  rule.groups ≠ [] ∧ ∀ group ∈ rule.groups, group.conditions ≠ [] ∧
    ∀ condition ∈ group.conditions, condition.Comparable

/-- A sound condition can be compared. -/
theorem Condition.SoundIn.comparable {groupId : Option String} {position : Nat}
    {condition : Condition} (sound : condition.SoundIn groupId position) :
    condition.Comparable := by
  obtain ⟨metric, knownMetric⟩ := sound.metric
  obtain ⟨comparison, knownComparison⟩ := sound.comparison
  obtain ⟨threshold, given, finite⟩ := sound.threshold
  have number : condition.threshold.number? = some (.float threshold) := by rw [given]; rfl
  have place : ∃ place, threshold.level? = some place := by
    cases threshold with
    | nan => cases finite
    | infinity negative => cases finite
    | finite negative size => cases negative <;> exact ⟨_, rfl⟩
  obtain ⟨place, placed⟩ := place
  refine ⟨metric, comparison, _, place, knownMetric, knownComparison, number, placed, ?_⟩
  intro metrics
  simp only [Condition.holds, knownMetric, knownComparison, number]

/-- A sound rule can be evaluated. -/
theorem Rule.Sound.evaluable {rule : Rule} (sound : rule.Sound) : rule.Evaluable := by
  refine ⟨sound.filled, ?_⟩
  intro group inRule
  obtain ⟨position, placed⟩ := List.mem_iff_getElem?.mp inRule
  have groupSound := sound.groups position group placed
  refine ⟨groupSound.filled, ?_⟩
  intro condition inGroup
  obtain ⟨place, within⟩ := List.mem_iff_getElem?.mp inGroup
  exact (groupSound.conditions place condition within).comparable

/-- No identifier is used twice in a sound store. -/
theorem Store.Sound.identifiers_nodup [IdSupply] {store : Store} {issued : Nat}
    (sound : store.Sound issued)
    (numbered : (store.rules.map (·.id)).Nodup) : store.identifiers.Nodup := by
  refine List.nodup_flatMap.mpr ⟨sound.distinct, ?_⟩
  have pairs : store.rules.Pairwise fun first second => first.id ≠ second.id :=
    List.pairwise_map.mp numbered
  exact pairs.imp_of_mem fun isFirst isSecond differs =>
    sound.apart _ isFirst _ isSecond differs

/-- Identifiers in a sound store are texts. -/
theorem Store.Sound.identifiers_texts [IdSupply] {store : Store} {issued : Nat}
    (sound : store.Sound issued) :
    ∀ id ∈ store.identifiers, ∃ content, id = .text content := by
  intro id used
  obtain ⟨rule, stored, own⟩ := List.mem_flatMap.mp used
  obtain ⟨number, _, _, same⟩ := mem_issued_ids.mp (sound.issuedBefore rule stored id own)
  exact ⟨freshId number, same⟩

namespace Memory

/-- After every history of checked calls, each rule is found under its own identifier and is sound,
no identifier is used twice, and the active rules are listed, each of them with groups and
conditions of which none is left undecided when it is evaluated. -/
theorem stored_rules_sound [IdSupply] (history : List Event)
    (checked : ∀ event ∈ history, event.call.Checked) :
    let store := (run history).store
    (∀ rule ∈ store.rules, store.rule? rule.id = some rule ∧ rule.Sound) ∧
      store.identifiers.Nodup ∧ (∀ id ∈ store.identifiers, ∃ content, id = .text content) ∧
      ∃ active, store.activeRules = .ok active ∧ ∀ rule ∈ active, rule.Evaluable := by
  intro store
  have numbered : store.Numbered (run history).issued := run_numbered history
  have sound : store.Sound (run history).issued := run_sound history checked
  obtain ⟨active, listed⟩ := numbered.listed
  refine ⟨?_, sound.identifiers_nodup numbered.distinct, sound.identifiers_texts, active, listed,
    ?_⟩
  · intro rule stored
    exact ⟨Store.rule?_of_mem numbered.distinct stored, sound.rules rule stored⟩
  · intro rule member
    exact (sound.rules rule ((Store.mem_active listed rule).mp member).1).evaluable

/-- A record of the first rule of the sample, with blanks at the ends of its name. -/
def padded : Value :=
  .record
    [("name", .text "  Spending "), ("action", .text "pause_campaign"),
      ("condition_groups", .list
        [.record [("conditions", .list
          [.record [("metric", .text "spend"), ("operator", .text "gte"),
            ("threshold", .float .zero)]])]])]

/-- A new name and new groups for a rule. -/
def revision : RuleChange :=
  ⟨some "Clicks", none, none, none, none,
    some [⟨.any, [⟨.clicks, .greater, .zero⟩, ⟨.spend, .less, .zero⟩]⟩,
      ⟨.all, [⟨.ctr, .equal, .zero⟩]⟩]⟩

/-- After the sample its second rule is switched off, gets new groups and is switched on, and the
first one is deleted. -/
def revised : List Event :=
  sample ++
    [⟨5, .setActive (.text (freshId 3)) (.bool false)⟩,
      ⟨6, .updateRule (.text (freshId 3)) revision⟩,
      ⟨7, .setActive (.text (freshId 3)) (.bool true)⟩,
      ⟨8, .deleteRule (.text (freshId 0))⟩]

/-- One rule is left of the sample, with new groups. It has one identifier of its own, two of groups
and three of conditions, all of them texts and distinct. -/
theorem sample_rules_sound :
    (∀ event ∈ revised, event.call.Checked) ∧
      (run revised).store.rules.map (·.identifiers.length) = [6] ∧
      (∀ rule ∈ (run revised).store.rules,
        (run revised).store.rule? rule.id = some rule ∧ rule.Sound) ∧
      (run revised).store.identifiers.Nodup ∧
      (∀ id ∈ (run revised).store.identifiers, ∃ content, id = .text content) ∧
      ∃ active, (run revised).store.activeRules = .ok active ∧
        ∀ rule ∈ active, rule.Evaluable := by
  have checked : ∀ event ∈ revised, event.call.Checked := by
    intro event member
    simp only [revised, sample, List.cons_append, List.nil_append, List.mem_cons, List.not_mem_nil,
      or_false] at member
    rcases member with rfl | rfl | rfl | rfl | rfl | rfl | rfl | rfl | rfl
    · exact ⟨⟨⟨0, none⟩, false⟩, padded, rfl⟩
    · exact ⟨⟨⟨0, none⟩, false⟩, (alwaysDue .sendNotification).toValue, rfl⟩
    · trivial
    · trivial
    · trivial
    · trivial
    · exact ⟨⟨⟨0, none⟩, false⟩, revision.toValue, rfl⟩
    · trivial
    · trivial
  exact ⟨checked, by decide +kernel, stored_rules_sound revised checked⟩

end Memory

end AdRules

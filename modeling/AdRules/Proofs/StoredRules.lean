import AdRules.Proofs.Evaluations
import AdRules.Proofs.Histories

/-!
# Stored rules

Every stored rule has an identifier that was issued for it alone and keeps the moment at which it
was created. No call changes either, so rules can be told apart by their identifiers and put in the
order of their creation in every history. The conditions of a rule are made of drafts, when the rule
is created and when it gets new groups, so that evaluating a stored rule never fails.
-/

namespace AdRules

variable [IdSupply]

/-- Rules have distinct identifiers, all of them issued, and were created at times without an
offset. -/
structure Store.Numbered (store : Store) (issued : Nat) : Prop where
  issuedBefore : ∀ rule ∈ store.rules, ∃ count < issued, rule.id = freshId count
  distinct : (store.rules.map (·.id)).Nodup
  dated : ∀ rule ∈ store.rules, ∃ time, rule.createdAt = some time ∧ time.isAware = false

/-! ## What drafts are made into -/

/-- A condition that is made of a draft can be evaluated for every reading. -/
theorem Condition.of_drafts_readable (groupId : String) (order issued : Nat)
    (drafts : List ConditionDraft) :
    ∀ condition ∈ ofDrafts groupId order issued drafts, condition.Readable := by
  induction drafts generalizing order issued with
  | nil => simp [ofDrafts]
  | cons draft rest inductionHypothesis =>
    intro condition member
    rcases List.mem_cons.mp member with rfl | later
    · exact ⟨⟨_, rfl⟩, ⟨_, rfl⟩, _, rfl⟩
    · exact inductionHypothesis (order + 1) (issued + 1) condition later

/-- Groups that are made of drafts hold such conditions only. -/
theorem ConditionGroup.of_drafts_readable (ruleId : String) (order issued : Nat)
    (drafts : List GroupDraft) :
    ∀ group ∈ ofDrafts ruleId order issued drafts,
      ∀ condition ∈ group.conditions, condition.Readable := by
  induction drafts generalizing order issued with
  | nil => simp [ofDrafts]
  | cons draft rest inductionHypothesis =>
    intro group member
    rcases List.mem_cons.mp member with rfl | later
    · exact Condition.of_drafts_readable _ _ _ _
    · exact inductionHypothesis (order + 1) _ group later

/-- A change leaves the groups of a rule as they are, or replaces them by ones made of drafts. -/
theorem Rule.Readable.changed {rule : Rule} (readable : rule.Readable) (change : RuleChange)
    (now : Timestamp) (issued : Nat) : (change.apply now issued rule).Readable := by
  cases given : change.groups with
  | none =>
    have same : (change.apply now issued rule).groups = rule.groups := by
      simp only [RuleChange.apply, given]
    intro group member
    exact readable group (same ▸ member)
  | some drafts =>
    have made : (change.apply now issued rule).groups =
        ConditionGroup.ofDrafts rule.id 0 issued drafts := by
      simp only [RuleChange.apply, given]
    intro group member
    exact ConditionGroup.of_drafts_readable _ _ _ _ group (made ▸ member)

namespace Store

variable {store : Store} {issued : Nat} {rule changed : Rule}

/-- Issuing more identifiers does no harm. -/
theorem Numbered.more {later : Nat} (numbered : store.Numbered issued) (more : issued ≤ later) :
    store.Numbered later where
  issuedBefore := by
    intro rule stored
    obtain ⟨count, before, named⟩ := numbered.issuedBefore rule stored
    exact ⟨count, by omega, named⟩
  distinct := numbered.distinct
  dated := numbered.dated

/-- What holds of rules alone does not depend on readings and logs. -/
theorem Numbered.of_rules {other : Store} (numbered : store.Numbered issued)
    (same : other.rules = store.rules) : other.Numbered issued where
  issuedBefore := same ▸ numbered.issuedBefore
  distinct := same ▸ numbered.distinct
  dated := same ▸ numbered.dated

/-- A rule may be replaced by one that has its identifier and was created when it was. -/
theorem Numbered.put (numbered : store.Numbered issued) (stored : rule ∈ store.rules)
    (sameId : changed.id = rule.id) (sameDate : changed.createdAt = rule.createdAt) :
    (store.putRule changed).Numbered issued where
  issuedBefore := by
    intro other member
    rcases mem_put_rule member with rfl | ⟨before, _⟩
    · exact sameId ▸ numbered.issuedBefore rule stored
    · exact numbered.issuedBefore other before
  distinct := by
    rw [put_rule_ids]
    exact numbered.distinct
  dated := by
    intro other member
    rcases mem_put_rule member with rfl | ⟨before, _⟩
    · exact sameDate ▸ numbered.dated rule stored
    · exact numbered.dated other before

/-- The next identifier is not in use. -/
theorem Numbered.fresh (numbered : store.Numbered issued) :
    freshId issued ∉ store.rules.map (·.id) := by
  intro used
  obtain ⟨rule, stored, named⟩ := List.mem_map.mp used
  obtain ⟨count, before, issuedAs⟩ := numbered.issuedBefore rule stored
  have same : count = issued := fresh_id_injective (issuedAs.symm.trans named)
  omega

/-- A new rule takes the next identifier, which none of the stored ones has. -/
theorem Numbered.create {now : Timestamp} (numbered : store.Numbered issued)
    (naive : now.isAware = false) (draft : RuleDraft) (owner : Option String) :
    (store.createRule now issued draft owner).2.1.Numbered
      (store.createRule now issued draft owner).2.2 where
  issuedBefore := by
    intro rule member
    simp only [createRule] at member ⊢
    rcases List.mem_append.mp member with before | new
    · obtain ⟨count, earlier, named⟩ := numbered.issuedBefore rule before
      exact ⟨count, by omega, named⟩
    · have same : rule = Rule.ofDraft now issued draft owner := List.mem_singleton.mp new
      exact ⟨issued, by omega, by rw [same]; rfl⟩
  distinct := by
    simp only [createRule, List.map_append, List.map_cons, List.map_nil]
    refine List.nodup_append.mpr ⟨numbered.distinct, by simp, ?_⟩
    intro used before new last equal
    have fresh : new = freshId issued := List.mem_singleton.mp last
    exact numbered.fresh (fresh ▸ equal ▸ before)
  dated := by
    intro rule member
    simp only [createRule] at member
    rcases List.mem_append.mp member with before | new
    · exact numbered.dated rule before
    · have same : rule = Rule.ofDraft now issued draft owner := List.mem_singleton.mp new
      exact ⟨now, by rw [same]; rfl, naive⟩

/-- Removing rules and logs leaves the others as they are. -/
theorem Numbered.remove (numbered : store.Numbered issued) (id : String) :
    Store.Numbered { store with
      rules := store.rules.filter (·.id != id)
      logs := store.logs.filter (·.ruleId != id) } issued where
  issuedBefore := fun rule member => numbered.issuedBefore rule (List.mem_filter.mp member).1
  distinct := (List.filter_sublist.map _).nodup numbered.distinct
  dated := fun rule member => numbered.dated rule (List.mem_filter.mp member).1

/-- Rules that are dated can be put in an order of their creation. -/
theorem Numbered.sorted (numbered : store.Numbered issued) (before : Int → Int → Bool)
    {rules : List Rule} (among : ∀ rule ∈ rules, rule ∈ store.rules) :
    ∃ sorted, sortedRules before rules = .ok sorted := by
  have uniform : Timestamp.uniform (rules.filterMap (·.createdAt)) = true := by
    apply Timestamp.uniform_of_naive
    intro time dated
    obtain ⟨rule, member, created⟩ := List.mem_filterMap.mp dated
    obtain ⟨other, given, naive⟩ := numbered.dated rule (among rule member)
    have same : other = time := Option.some.inj (given.symm.trans created)
    exact same ▸ naive
  exact ⟨_, if_pos uniform⟩

/-- The active rules of a numbered store can be listed, as the moments of their creation have no
offset. -/
theorem Numbered.listed (numbered : store.Numbered issued) :
    ∃ active, store.activeRules = .ok active :=
  numbered.sorted _ fun _ member => (List.mem_filter.mp member).1

/-- All rules of a numbered store can be listed, the inactive ones as well. -/
theorem Numbered.newest (numbered : store.Numbered issued) :
    ∃ rules, store.newestRules = .ok rules := by
  obtain ⟨sorted, inOrder⟩ := numbered.sorted (fun first second => decide (second ≤ first))
    fun rule (member : rule ∈ store.rules) => member
  exact ⟨_, by rw [newestRules, inOrder]; rfl⟩

end Store

namespace Memory

/-- Every step keeps rules apart and dated. That the moment has no offset is what makes the dates of
all rules comparable. -/
theorem numbered_step {memory after : Memory} {reply : Reply} (step : Step memory reply after)
    (naive : memory.now.isAware = false) (numbered : memory.store.Numbered memory.issued) :
    after.store.Numbered after.issued := by
  obtain ⟨call, effect⟩ := step
  cases effect with
  | kept counted issued more shown => exact numbered.more more
  | measured snapshot =>
    obtain ⟨sameRules, _, more⟩ :=
      Store.upsert_frame memory.store memory.now memory.issued snapshot
    exact (numbered.of_rules sameRules).more more
  | created draft owner => exact numbered.create naive draft owner
  | changed rule change found =>
    have put : (memory.store.putRule (change.apply memory.now memory.issued rule)).Numbered
        memory.issued := numbered.put (Store.mem_of_rule? found) rfl rfl
    exact put.more (Nat.le_add_right memory.issued change.idCount)
  | deleted id => exact numbered.remove id
  | recorded rule log issued more found first =>
    have put : (memory.store.putRule (rule.triggered log.triggeredAt memory.now)).Numbered
        memory.issued := numbered.put (Store.mem_of_rule? found) rfl rfl
    have appended : (memory.store.append memory.now rule log).Numbered memory.issued :=
      put.of_rules rfl
    exact appended.more more

/-- Every step keeps the stored rules readable: conditions come from drafts alone, in which metrics
and comparisons are known and thresholds are doubles. -/
theorem readable_step {memory after : Memory} {reply : Reply} (step : Step memory reply after)
    (readable : ∀ rule ∈ memory.store.rules, rule.Readable) :
    ∀ rule ∈ after.store.rules, rule.Readable := by
  obtain ⟨call, effect⟩ := step
  cases effect with
  | kept counted issued more shown => exact readable
  | measured snapshot =>
    obtain ⟨sameRules, _, _⟩ := Store.upsert_frame memory.store memory.now memory.issued snapshot
    intro rule member
    exact readable rule (sameRules ▸ member)
  | created draft owner =>
    intro rule member
    rcases List.mem_append.mp member with before | new
    · exact readable rule before
    · rw [List.mem_singleton.mp new]
      exact ConditionGroup.of_drafts_readable _ _ _ _
  | changed rule change found =>
    intro other member
    rcases Store.mem_put_rule member with rfl | ⟨before, _⟩
    · exact (readable rule (Store.mem_of_rule? found)).changed change memory.now memory.issued
    · exact readable other before
  | deleted id =>
    intro rule member
    exact readable rule (List.mem_filter.mp member).1
  | recorded rule log issued more found first =>
    intro other member
    rcases Store.mem_put_rule member with rfl | ⟨before, _⟩
    · exact readable rule (Store.mem_of_rule? found)
    · exact readable other before

/-- In every history every stored rule can be evaluated for every reading. The drafts need not have
been checked for this. -/
theorem run_readable (history : List Event) :
    ∀ rule ∈ (run history).store.rules, rule.Readable := by
  refine run_induction (motive := fun _ memory => ∀ rule ∈ memory.store.rules, rule.Readable)
    ?_ ?_ history
  · simp [start, Store.empty]
  · intro _ memory moment reply after readable step
    exact readable_step step readable

/-- In every history rules are kept apart by their identifiers and dated. -/
theorem run_numbered (history : List Event) :
    (run history).store.Numbered (run history).issued := by
  refine run_induction (motive := fun _ memory => memory.store.Numbered memory.issued)
    ?_ ?_ history
  · exact ⟨by simp [start, Store.empty], by simp [start, Store.empty], by simp [start, Store.empty]⟩
  · intro _ memory moment reply after numbered step
    exact numbered_step step rfl numbered

end Memory

end AdRules

import AdRules.Proofs.ApplicationHistories
import AdRules.Proofs.Readings
import AdRules.Proofs.StoredRules
import AdRules.Proofs.TimeOrder

/-!
# The listings of rules

All rules are listed the newest first, the active ones the oldest first, and among rules of one
moment both listings keep the order in which they were created: also the one that turns the order of
time around. When a rule was created, and after which others, is settled by its birth alone. No
later call changes that, so two rules that are listed before and after other calls come in the same
order.
-/

namespace AdRules

/-! ## Pairs in lists -/

section Pairs

variable {α : Type} {entries : List α} {first second : α}

/-- Of two entries one comes before the other. -/
theorem pair_either (isFirst : first ∈ entries) (isSecond : second ∈ entries)
    (apart : first ≠ second) :
    [first, second].Sublist entries ∨ [second, first].Sublist entries := by
  obtain ⟨earlier, later, rfl⟩ := List.mem_iff_append.mp isFirst
  rcases List.mem_append.mp isSecond with before | after
  · exact .inr ((List.singleton_sublist.mpr before).append
      (List.singleton_sublist.mpr List.mem_cons_self))
  · have inRest := (List.mem_cons.mp after).resolve_left apart.symm
    exact .inl (((List.singleton_sublist.mpr inRest).cons_cons first).trans
      (List.sublist_append_right earlier _))

/-- Where no entry comes twice, no two entries come before each other. By induction on the entries:
the first of them comes before the other one only. -/
theorem pair_asymm (once : entries.Nodup) (before : [first, second].Sublist entries) :
    ¬ [second, first].Sublist entries := by
  induction entries with
  | nil => simp at before
  | cons head rest inductionHypothesis =>
    obtain ⟨headOnce, restOnce⟩ := List.nodup_cons.mp once
    intro back
    rcases List.sublist_cons_iff.mp before with beforeInRest | ⟨_, same, inRest⟩
    · rcases List.sublist_cons_iff.mp back with backInRest | ⟨_, same, _⟩
      · exact inductionHypothesis restOnce beforeInRest backInRest
      · obtain ⟨rfl, _⟩ := List.cons.inj same
        exact headOnce (beforeInRest.subset (by simp))
    · obtain ⟨rfl, rfl⟩ := List.cons.inj same
      rcases List.sublist_cons_iff.mp back with backInRest | ⟨_, same, backInRest⟩
      · exact headOnce (backInRest.subset (by simp))
      · obtain ⟨rfl, rfl⟩ := List.cons.inj same
        exact headOnce (backInRest.subset (by simp))

end Pairs

/-! ## Births -/

/-- What is settled when a rule is created: its identifier and the moment. -/
structure Birth where
  id : String
  moment : Int

/-- The birth of a rule, as it is still known from the rule. -/
def Rule.birth (rule : Rule) : Birth := ⟨rule.id, Store.creation rule⟩

/-- The first birth comes before the second one: at an earlier moment, as `earlier` says, or at the
same moment and earlier among all births. -/
def Before (births : List Birth) (earlier : Int → Int → Prop) (first second : Birth) : Prop :=
  earlier first.moment second.moment ∨
    first.moment = second.moment ∧ [first, second].Sublist births

/-- A rule that takes the place of one with its birth changes no births. -/
theorem Store.put_rule_births {store : Store} {rule : Rule} (changed : Rule)
    (distinct : (store.rules.map (·.id)).Nodup) (stored : rule ∈ store.rules)
    (sameBirth : changed.birth = rule.birth) :
    (store.putRule changed).rules.map Rule.birth = store.rules.map Rule.birth := by
  have sameId : changed.id = rule.id := congrArg Birth.id sameBirth
  obtain ⟨earlier, later, split, put⟩ := put_rule_around distinct stored sameId
  simp only [put, split, List.map_append, List.map_cons, sameBirth]

namespace Memory

/-- What a listing of some stored rules shows: each of them once, all of them with births, and one
after the other as these come. -/
structure Listing (births : List Birth) (earlier : Int → Int → Prop) (stored listed : List Rule) :
    Prop where
  complete : listed.Perm stored
  once : (listed.map (·.id)).Nodup
  born : ∀ rule ∈ listed, rule.birth ∈ births
  ordered : listed.Pairwise fun first second => Before births earlier first.birth second.birth

/-- Two rules that are in both listings come in one order. Rules that are in one listing only do not
matter. -/
def SameOrder (before after : List Rule) : Prop :=
  ∀ first ∈ before.map (·.id), ∀ second ∈ before.map (·.id),
    first ∈ after.map (·.id) → second ∈ after.map (·.id) →
      ([first, second].Sublist (before.map (·.id)) ↔ [first, second].Sublist (after.map (·.id)))

section Orders

variable {births : List Birth} {earlier : Int → Int → Prop} {stored listed : List Rule}

/-- More births change nothing in the order of those before. -/
theorem Listing.more (listing : Listing births earlier stored listed) (later : List Birth) :
    Listing (births ++ later) earlier stored listed where
  complete := listing.complete
  once := listing.once
  born := fun rule member => List.mem_append_left later (listing.born rule member)
  ordered := by
    refine listing.ordered.imp ?_
    rintro first second (isEarlier | ⟨same, before⟩)
    · exact .inl isEarlier
    · exact .inr ⟨same, before.trans (List.sublist_append_left births later)⟩

/-- Rules are listed with their counts. -/
theorem Listing.counted (listing : Listing births earlier stored listed) (store : Store) :
    Listing births earlier (stored.map store.withCount) (listed.map store.withCount) where
  complete := listing.complete.map _
  once := by
    rw [List.map_map]
    exact listing.once
  born := by
    intro rule member
    obtain ⟨plain, isListed, rfl⟩ := List.mem_map.mp member
    exact listing.born plain isListed
  ordered := List.pairwise_map.mpr listing.ordered

variable [Std.Asymm earlier]

/-- Where no two births share an identifier, no two births come before each other. -/
theorem before_asymm (distinct : (births.map (·.id)).Nodup) {first second : Birth}
    (before : Before births earlier first second) : ¬ Before births earlier second first := by
  rintro (backEarlier | ⟨same, back⟩)
  · rcases before with isEarlier | ⟨same, _⟩
    · exact Std.Asymm.asymm _ _ isEarlier backEarlier
    · rw [same] at backEarlier
      exact Std.Asymm.asymm _ _ backEarlier backEarlier
  · rcases before with isEarlier | ⟨_, before⟩
    · rw [same] at isEarlier
      exact Std.Asymm.asymm _ _ isEarlier isEarlier
    · exact pair_asymm (.of_map _ distinct) before back

/-- Which of two listed rules comes first is settled by their births. -/
theorem Listing.before_iff (listing : Listing births earlier stored listed)
    (distinct : (births.map (·.id)).Nodup) {first second : Rule} (isFirst : first ∈ listed)
    (isSecond : second ∈ listed) (apart : first.id ≠ second.id) :
    [first.id, second.id].Sublist (listed.map (·.id)) ↔
      Before births earlier first.birth second.birth := by
  have inOrder : ∀ {one other : Rule}, [one, other].Sublist listed →
      Before births earlier one.birth other.birth :=
    List.pairwise_iff_forall_sublist.mp listing.ordered
  have shown : ∀ {one other : Rule}, [one, other].Sublist listed →
      [one.id, other.id].Sublist (listed.map (·.id)) := fun pair => pair.map Rule.id
  rcases pair_either isFirst isSecond fun same => apart (congrArg Rule.id same) with
    pair | back
  · exact iff_of_true (shown pair) (inOrder pair)
  · exact iff_of_false (pair_asymm listing.once (shown back))
      (before_asymm distinct (inOrder back))

/-- Two listings agree on the order of the rules that are in both, because both follow the births,
which do not change. -/
theorem Listing.same_order {storedAfter after : List Rule}
    (listing : Listing births earlier stored listed)
    (listingAfter : Listing births earlier storedAfter after)
    (distinct : (births.map (·.id)).Nodup) : SameOrder listed after := by
  intro first isFirst second isSecond stillFirst stillSecond
  by_cases apart : first = second
  · subst apart
    exact iff_of_false (List.nodup_iff_sublist.mp listing.once first)
      (List.nodup_iff_sublist.mp listingAfter.once first)
  obtain ⟨one, oneListed, rfl⟩ := List.mem_map.mp isFirst
  obtain ⟨other, otherListed, rfl⟩ := List.mem_map.mp isSecond
  obtain ⟨oneAfter, oneStill, sameOne⟩ := List.mem_map.mp stillFirst
  obtain ⟨otherAfter, otherStill, sameOther⟩ := List.mem_map.mp stillSecond
  have sameBirth : ∀ {rule again : Rule}, rule ∈ listed → again ∈ after → again.id = rule.id →
      again.birth = rule.birth := fun member memberAfter same =>
    List.inj_on_of_nodup_map distinct (listingAfter.born _ memberAfter) (listing.born _ member) same
  have apartAfter : oneAfter.id ≠ otherAfter.id := by rwa [sameOne, sameOther]
  rw [listing.before_iff distinct oneListed otherListed apart, ← sameOne, ← sameOther,
    listingAfter.before_iff distinct oneStill otherStill apartAfter,
    sameBirth oneListed oneStill sameOne, sameBirth otherListed otherStill sameOther]

/-- Where the same births are listed, they are listed alike. -/
theorem Listing.alike {storedAfter after : List Rule}
    (listing : Listing births earlier stored listed)
    (listingAfter : Listing births earlier storedAfter after)
    (distinct : (births.map (·.id)).Nodup)
    (same : storedAfter.map Rule.birth = stored.map Rule.birth) :
    after.map Rule.birth = listed.map Rule.birth := by
  have listedSame : (after.map Rule.birth).Perm (listed.map Rule.birth) := by
    have stored := (listingAfter.complete.map Rule.birth).trans (.of_eq same)
    exact stored.trans (listing.complete.map Rule.birth).symm
  refine listedSame.eq_of_pairwise ?_ (List.pairwise_map.mpr listingAfter.ordered)
    (List.pairwise_map.mpr listing.ordered)
  intro first second _ _ before back
  exact absurd back (before_asymm distinct before)

end Orders

section Births

variable [IdSupply]

/-- The birth of the rule that the call of an event creates, as the reply shows it. -/
def Event.born? (event : Event) (memory : Memory) : Option Birth :=
  match event.call with
  | .createRule _ _ =>
    (event.answer memory).1.counted.head?.map fun rule => ⟨rule.id, event.moment⟩
  | _ => none

/-- The births that some events bring about, in their order. -/
def birthsFrom : Memory → List Event → List Birth
  | _, [] => []
  | memory, event :: rest =>
    (event.born? memory).toList ++ birthsFrom (event.answer memory).2 rest

/-- The births of a history, in their order. -/
def birthsIn (history : List Event) : List Birth := birthsFrom start history

/-- The stored rules are what is left of those that were born, in the order of their births, and
births have distinct identifiers, which were issued. -/
structure Descends (births : List Birth) (memory : Memory) : Prop where
  issued : ∀ birth ∈ births, ∃ count < memory.issued, birth.id = freshId count
  distinct : (births.map (·.id)).Nodup
  stored : (memory.store.rules.map Rule.birth).Sublist births

variable {births : List Birth} {memory : Memory}

/-- The moment of the next use has no part in it. -/
theorem Descends.at_moment (descends : Descends births memory) (moment : Int) :
    Descends births (memory.setClock moment) :=
  ⟨descends.issued, descends.distinct, descends.stored⟩

/-- Rules that descend from births have distinct identifiers, because no identifier is issued twice.
-/
theorem Descends.rule_ids (descends : Descends births memory) :
    (memory.store.rules.map (·.id)).Nodup := by
  have ids : memory.store.rules.map (·.id) = (memory.store.rules.map Rule.birth).map (·.id) := by
    rw [List.map_map]
    rfl
  rw [ids]
  exact (descends.stored.map _).nodup descends.distinct

/-! ## What one call does -/

/-- No call changes births but one that creates a rule; only one that deletes a rule removes any. -/
theorem births_kept {call : Call} (other : ∀ draft owner, call ≠ .createRule draft owner)
    (distinct : (memory.store.rules.map (·.id)).Nodup) :
    ((call.answer memory).2.store.rules.map Rule.birth).Sublist
        (memory.store.rules.map Rule.birth) ∧
      memory.issued ≤ (call.answer memory).2.issued ∧
      ((∀ id, call ≠ .deleteRule id) →
        (call.answer memory).2.store.rules.map Rule.birth = memory.store.rules.map Rule.birth) := by
  have effect : Effect memory call (call.answer memory).1 (call.answer memory).2 :=
    call_effect call
  generalize (call.answer memory).1 = reply, (call.answer memory).2 = after at effect
  cases effect with
  | kept counted issued more shown => exact ⟨.refl _, more, fun _ => rfl⟩
  | measured snapshot =>
    obtain ⟨sameRules, _, more⟩ :=
      Store.upsert_frame memory.store memory.now memory.issued snapshot
    rw [keep, sameRules]
    exact ⟨.refl _, more, fun _ => rfl⟩
  | created draft owner => exact absurd rfl (other draft _)
  | changed rule change found made =>
    have same := Store.put_rule_births (change.apply memory.now memory.issued rule) distinct
      (Store.mem_of_rule? found) rfl
    exact ⟨same ▸ .refl _, Nat.le_add_right _ _, fun _ => same⟩
  | deleted id =>
    exact ⟨List.filter_sublist.map _, Nat.le_refl _, fun keeps => absurd rfl (keeps _)⟩
  | recorded rule log issued more found first identified =>
    have same := Store.put_rule_births (rule.triggered log.triggeredAt memory.now) distinct
      (Store.mem_of_rule? found) rfl
    exact ⟨same ▸ .refl _, more, fun _ => same⟩

/-- A rule is created, or a refused owner costs identifiers. -/
theorem create_answer (memory : Memory) (draft : RuleDraft) (given : Value) :
    (∃ owner, (Call.createRule draft given).answer memory =
      (.showing [(memory.store.createRule memory.now memory.issued draft owner).1],
        memory.keep (memory.store.createRule memory.now memory.issued draft owner).2.1
          (memory.store.createRule memory.now memory.issued draft owner).2.2)) ∨
      ∃ issued, memory.issued ≤ issued ∧
        (Call.createRule draft given).answer memory =
          (.other, memory.keep memory.store issued) := by
  simp only [Call.answer, Call.perform, settle, repository, Act.map_apply, createRule]
  cases owner given with
  | ok owner => exact .inl ⟨owner, rfl⟩
  | error failure => exact .inr ⟨_, by omega, rfl⟩

/-- Where no rule is born, the others still descend from the births. -/
theorem Descends.unborn (descends : Descends births memory) {after : Memory}
    (kept : (after.store.rules.map Rule.birth).Sublist (memory.store.rules.map Rule.birth))
    (more : memory.issued ≤ after.issued) : Descends births after where
  issued := by
    intro birth member
    obtain ⟨count, before, named⟩ := descends.issued birth member
    exact ⟨count, by omega, named⟩
  distinct := descends.distinct
  stored := kept.trans descends.stored

/-- A new rule is born last, under an identifier that none was born under. -/
theorem Descends.born (descends : Descends births memory) {moment : Int}
    (clocked : memory.now = ⟨moment, none⟩) (draft : RuleDraft) (owner : Option String) :
    Descends (births ++ [⟨freshId memory.issued, moment⟩])
      (memory.keep (memory.store.createRule memory.now memory.issued draft owner).2.1
        (memory.store.createRule memory.now memory.issued draft owner).2.2) where
  issued := by
    intro birth member
    simp only [keep, Store.createRule]
    rcases List.mem_append.mp member with before | new
    · obtain ⟨count, earlier, named⟩ := descends.issued birth before
      exact ⟨count, by omega, named⟩
    · exact ⟨memory.issued, by omega, by rw [List.mem_singleton.mp new]⟩
  distinct := by
    rw [List.map_append, List.nodup_append]
    refine ⟨descends.distinct, by simp, ?_⟩
    rintro used before new last rfl
    obtain ⟨birth, member, rfl⟩ := List.mem_map.mp before
    obtain ⟨count, earlier, named⟩ := descends.issued birth member
    have fresh : birth.id = freshId memory.issued := by simpa using last
    have same : count = memory.issued := fresh_id_injective (named.symm.trans fresh)
    omega
  stored := by
    have birth : (Rule.ofDraft memory.now memory.issued draft owner).birth =
        ⟨freshId memory.issued, moment⟩ := by
      simp [Rule.birth, Rule.ofDraft, Store.creation, Timestamp.instant, clocked]
    simp only [keep, Store.createRule, List.map_append, List.map_cons, List.map_nil, birth]
    exact descends.stored.append (.refl _)

/-- The rules descend from one birth more, if the call of an event creates a rule. -/
theorem Descends.step (descends : Descends births memory) (event : Event) :
    Descends (births ++ (event.born? memory).toList) (event.answer memory).2 := by
  obtain ⟨moment, call⟩ := event
  have clocked : Descends births (memory.setClock moment) := descends.at_moment moment
  by_cases creates : ∃ draft given, call = .createRule draft given
  · obtain ⟨draft, given, rfl⟩ := creates
    rcases create_answer (memory.setClock moment) draft given with
      ⟨owner, created⟩ | ⟨issued, more, refused⟩
    · simp only [Event.born?, Event.answer, created]
      exact clocked.born rfl draft owner
    · simp only [Event.born?, Event.answer, refused]
      rw [show Reply.other.counted = [] from rfl, List.head?_nil, Option.map_none,
        Option.toList_none, List.append_nil]
      exact clocked.unborn (.refl _) more
  · have other : ∀ draft given, call ≠ .createRule draft given := by
      rintro draft given rfl
      exact creates ⟨draft, given, rfl⟩
    have silent : Event.born? ⟨moment, call⟩ memory = none := by
      cases call with
      | createRule draft given => exact absurd rfl (other draft given)
      | upsertCampaign _ | latestCampaign | latestCampaignWithLogs _ | rule _ _ | rules
      | updateRule _ _ | setActive _ _ | deleteRule _ | activeRules | findLog _ _ _ _ | logs _ _
      | record _ | prepare => rfl
    obtain ⟨kept, more, _⟩ := births_kept other clocked.rule_ids
    rw [silent, Option.toList_none, List.append_nil]
    exact clocked.unborn kept more

/-- By induction on the events, of which each sees the memory that the ones before it left. -/
theorem run_from_descends (descends : Descends births memory) (history : List Event) :
    Descends (births ++ birthsFrom memory history) (runFrom memory history) := by
  induction history generalizing births memory with
  | nil => simpa [birthsFrom, runFrom] using descends
  | cons event rest inductionHypothesis =>
    have later := inductionHypothesis (descends.step event)
    simpa [birthsFrom, runFrom] using later

/-- After every history the stored rules descend from its births. By induction on the history. -/
theorem run_descends (history : List Event) : Descends (birthsIn history) (run history) := by
  have nothing : Descends [] start := ⟨by simp, List.nodup_nil, .refl _⟩
  exact run_from_descends nothing history

/-! ## The listings -/

/-- Sorting rules by the moments of their creation lists them as their births come. -/
theorem Descends.listing (descends : Descends births memory) {earlier : Int → Int → Prop}
    {before : Int → Int → Bool}
    (trans : ∀ a b c, before a b = true → before b c = true → before a c = true)
    (total : ∀ a b, (before a b || before b a) = true)
    (strict : ∀ a b, before a b = true → earlier a b ∨ a = b) {rules listed : List Rule}
    (among : rules.Sublist memory.store.rules)
    (sorted : Store.sortedRules before rules = .ok listed) :
    Listing births earlier rules listed := by
  have born : (rules.map Rule.birth).Sublist births := (among.map _).trans descends.stored
  have inOrder : rules.Pairwise fun first second => [first.birth, second.birth].Sublist births :=
    List.pairwise_iff_forall_sublist.mpr fun pair => (pair.map Rule.birth).trans born
  let comesFirst (first second : Rule) : Bool :=
    before (Store.creation first) (Store.creation second)
  unfold Store.sortedRules at sorted
  split at sorted
  · cases sorted
    have complete : (rules.mergeSort comesFirst).Perm rules := List.mergeSort_perm rules comesFirst
    have inTime : (rules.mergeSort comesFirst).Pairwise fun first second =>
        comesFirst first second = true ∧
          (comesFirst second first = true → [first.birth, second.birth].Sublist births) := by
      refine sorted_stably ?_ ?_ inOrder
      · exact fun _ _ _ => trans _ _ _
      · exact fun _ _ => total _ _
    refine ⟨complete, ?_, ?_, inTime.imp ?_⟩
    · exact ((complete.map _).nodup_iff).mpr ((among.map _).nodup descends.rule_ids)
    · intro rule member
      exact born.subset (List.mem_map_of_mem (complete.mem_iff.mp member))
    · rintro first second ⟨sorted, ofOneMoment⟩
      rcases strict _ _ sorted with isEarlier | same
      · exact .inl isEarlier
      · refine .inr ⟨same, ofOneMoment ?_⟩
        simpa [comesFirst, same] using total (Store.creation second) (Store.creation second)
  · cases sorted

/-- Both listings are given: the stored rules with their counts, the newest first, and the active
ones, the oldest first. -/
structure Listings (births : List Birth) (memory : Memory) (newest active : List Rule) : Prop where
  newestGiven : repository.rules.result memory = .ok newest
  activeGiven : repository.activeRules.result memory = .ok active
  newest : Listing births (· > ·) (memory.store.rules.map memory.store.withCount) newest
  active : Listing births (· < ·) (memory.store.rules.filter (·.isActive)) active

/-- Rules that descend from births have the two listings, one in each direction of time. Their
moments can be compared, since the clock of the store gives none with an offset. -/
theorem Descends.listings (descends : Descends births memory)
    (numbered : memory.store.Numbered memory.issued) :
    ∃ newest active, Listings births memory newest active := by
  obtain ⟨sorted, inOrder⟩ := numbered.sorted (fun first second => decide (second ≤ first))
    fun rule (member : rule ∈ memory.store.rules) => member
  obtain ⟨active, activeSorted⟩ := numbered.listed
  have newestSorted : memory.store.newestRules = .ok (sorted.map memory.store.withCount) := by
    rw [Store.newestRules, inOrder]
    rfl
  refine ⟨_, active, (query_result Store.newestRules).trans newestSorted,
    (query_result Store.activeRules).trans activeSorted, ?_, ?_⟩
  · refine (descends.listing ?_ ?_ ?_ (.refl _) inOrder).counted _ <;>
      simp only [Bool.or_eq_true, decide_eq_true_eq] <;> omega
  · refine descends.listing ?_ ?_ ?_ List.filter_sublist activeSorted <;>
      simp only [Bool.or_eq_true, decide_eq_true_eq] <;> omega

/-- Two rules that are listed in both memories come in the same order there, in either listing. -/
structure SameOrders (before after : Memory) : Prop where
  newest : ∃ listed again, repository.rules.result before = .ok listed ∧
    repository.rules.result after = .ok again ∧ SameOrder listed again
  active : ∃ listed again, repository.activeRules.result before = .ok listed ∧
    repository.activeRules.result after = .ok again ∧ SameOrder listed again

/-- No further calls change the order of two rules. -/
theorem same_orders (history future : List Event) :
    SameOrders (run history) (runFrom (run history) future) := by
  have descends := run_descends history
  have later := run_from_descends descends future
  have numbered : (runFrom (run history) future).store.Numbered
      (runFrom (run history) future).issued := by
    have whole := run_numbered (history ++ future)
    rwa [run, run_from_append] at whole
  obtain ⟨newest, active, now⟩ := descends.listings (run_numbered history)
  obtain ⟨newestLater, activeLater, still⟩ := later.listings numbered
  exact
    { newest := ⟨newest, newestLater, now.newestGiven, still.newestGiven,
        (now.newest.more _).same_order still.newest later.distinct⟩
      active := ⟨active, activeLater, now.activeGiven, still.activeGiven,
        (now.active.more _).same_order still.active later.distinct⟩ }

/-- A call that neither creates nor deletes a rule leaves the listing of all rules as it is, but for
what it changes within them. -/
theorem listing_stays (history : List Event) (moment : Int) {call : Call}
    (creates : ∀ draft owner, call ≠ .createRule draft owner)
    (deletes : ∀ id, call ≠ .deleteRule id) :
    ∃ listed again, repository.rules.result (run history) = .ok listed ∧
      repository.rules.result (call.answer ((run history).setClock moment)).2 = .ok again ∧
      again.map Rule.birth = listed.map Rule.birth := by
  have descends := run_descends history
  have clocked := descends.at_moment moment
  obtain ⟨kept, more, same⟩ := births_kept creates clocked.rule_ids
  have numbered : (call.answer ((run history).setClock moment)).2.store.Numbered
      (call.answer ((run history).setClock moment)).2.issued :=
    numbered_step (call_step call) rfl (run_numbered history)
  obtain ⟨newest, _, now⟩ := descends.listings (run_numbered history)
  obtain ⟨newestLater, _, still⟩ := (clocked.unborn kept more).listings numbered
  refine ⟨newest, newestLater, now.newestGiven, still.newestGiven, ?_⟩
  refine now.newest.alike still.newest descends.distinct ?_
  rw [List.map_map, List.map_map]
  exact same deletes

/-- After every history the stored rules descend from those that it created. Both listings are
given: all stored rules, each once, with the number of their logs, the newest first, and the active
ones, each once, the oldest first; rules of one moment come in the order of their creation.
Whatever calls follow, and whatever an application does over the store, executing rules or changing
them, two rules that are still listed come in the same order as before; and where the next call
neither creates nor deletes a rule, all rules are listed as before. -/
theorem rules_listed_in_order (history : List Event) :
    Descends (birthsIn history) (run history) ∧
      (∃ newest active, Listings (birthsIn history) (run history) newest active) ∧
      (∀ future, SameOrders (run history) (runFrom (run history) future)) ∧
      (∀ moment (call : Call), (∀ draft owner, call ≠ .createRule draft owner) →
        (∀ id, call ≠ .deleteRule id) →
        ∃ listed again, repository.rules.result (run history) = .ok listed ∧
          repository.rules.result (call.answer ((run history).setClock moment)).2 = .ok again ∧
          again.map Rule.birth = listed.map Rule.birth) ∧
      ∀ (application : Application) (engine : Engine (Memory × Nat)) (operations : List Operation),
        engine.outside.1 = run history →
          SameOrders (run history) (operations.foldl application.after engine).outside.1 := by
  have descends := run_descends history
  refine ⟨descends, descends.listings (run_numbered history), same_orders history,
    fun moment call => listing_stays history moment, ?_⟩
  intro application engine operations stored
  obtain ⟨calls, reached⟩ := application.operations_reach engine operations
  rw [reached, stored]
  exact same_orders history calls

end Births

/-- The clock stands still between two creations and goes back before the third. -/
def createdBackwards : List Event :=
  [⟨5, .createRule (alwaysDue .pauseCampaign) .null⟩,
    ⟨5, .createRule (alwaysDue .sendNotification) .null⟩,
    ⟨3, .createRule (alwaysDue .sendNotification) .null⟩]

example :
    (repository.rules.result (run createdBackwards)).toOption.map (·.map (·.id)) =
        some [freshId 0, freshId 3, freshId 6] ∧
      (repository.activeRules.result (run createdBackwards)).toOption.map (·.map (·.id)) =
        some [freshId 6, freshId 0, freshId 3] := by
  cbv

end Memory

end AdRules

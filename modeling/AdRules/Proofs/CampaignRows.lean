import AdRules.Proofs.Histories
import AdRules.Proofs.Readings
import AdRules.Proofs.TimeOrder

/-!
# The rows of campaigns

A campaign has one row, made of its first and its last reading: the first gives it an identifier and
the moment of its creation, the last everything else. The rows stand in the order of the first
readings and are changed by nothing but readings. Which of them is the latest depends on the times
they have now, whatever times they had before.
-/

namespace AdRules.Memory

/-! ## The readings of a history -/

/-- A reading that is stored at a moment, after some identifiers have been issued. -/
structure Upsert where
  moment : Int
  issued : Nat
  snapshot : Snapshot

/-- The reading that the call of an event stores. -/
def Event.upsert? (event : Event) (issued : Nat) : Option Upsert :=
  match event.call with
  | .upsertCampaign snapshot => some ⟨event.moment, issued, snapshot⟩
  | _ => none

/-- The readings that some events store, in their order, each with the moment and the number of
identifiers at which it was stored. -/
def upsertsFrom [IdSupply] : Memory → List Event → List Upsert
  | _, [] => []
  | memory, event :: rest =>
    (event.upsert? memory.issued).toList ++ upsertsFrom (event.answer memory).2 rest

/-- The readings that a history stores, in their order. -/
def upserts [IdSupply] (history : List Event) : List Upsert := upsertsFrom start history

/-- The campaigns of some readings, in the order of their first readings. -/
def campaignsOf (readings : List Upsert) : List String :=
  (readings.map (·.snapshot.campaignId)).eraseDups

/-- The readings of a campaign. -/
def readingsOf (campaignId : String) (readings : List Upsert) : List Upsert :=
  readings.filter (·.snapshot.campaignId == campaignId)

/-- The campaigns with one more reading: a new one comes last. -/
theorem campaigns_snoc (readings : List Upsert) (new : Upsert) :
    campaignsOf (readings ++ [new]) =
      if new.snapshot.campaignId ∈ campaignsOf readings then campaignsOf readings
      else campaignsOf readings ++ [new.snapshot.campaignId] := by
  simp only [campaignsOf, List.map_append, List.map_cons, List.map_nil, List.eraseDups_append,
    List.mem_eraseDups]
  generalize readings.map (·.snapshot.campaignId) = campaigns
  by_cases known : new.snapshot.campaignId ∈ campaigns
  · simp [List.removeAll, known]
  · have alone : [new.snapshot.campaignId].eraseDups = [new.snapshot.campaignId] := rfl
    simp [List.removeAll, known, alone]

/-- No campaign is listed twice, however often it was read: the list is that of the first readings.
-/
theorem campaigns_nodup (readings : List Upsert) : (campaignsOf readings).Nodup := by
  induction readings using List.reverseRecOn with
  | nil => exact List.nodup_nil
  | append_singleton readings new inductionHypothesis =>
    rw [campaigns_snoc]
    split
    · exact inductionHypothesis
    · next unknown => simpa using inductionHypothesis.concat unknown

/-- The readings of a campaign with one more reading. -/
theorem readings_snoc (campaignId : String) (readings : List Upsert) (new : Upsert) :
    readingsOf campaignId (readings ++ [new]) =
      readingsOf campaignId readings ++
        if new.snapshot.campaignId = campaignId then [new] else [] := by
  by_cases same : new.snapshot.campaignId = campaignId <;> simp [readingsOf, same]

/-- The campaigns after a row is put in place. -/
theorem put_campaign_ids (store : Store) (row : Snapshot) :
    (store.putCampaign row).campaigns.map (·.campaignId) =
      if row.campaignId ∈ store.campaigns.map (·.campaignId) then
        store.campaigns.map (·.campaignId)
      else store.campaigns.map (·.campaignId) ++ [row.campaignId] := by
  have known : (store.campaign? row.campaignId).isSome = true ↔
      row.campaignId ∈ store.campaigns.map (·.campaignId) := by
    simp [Store.campaign?, List.find?_isSome]
  unfold Store.putCampaign
  by_cases present : (store.campaign? row.campaignId).isSome = true
  · rw [if_pos present, if_pos (known.mp present), List.map_map]
    refine List.map_congr_left fun stored _ => ?_
    by_cases same : stored.campaignId = row.campaignId <;> simp [same]
  · rw [if_neg present, if_neg (fun listed => present (known.mpr listed))]
    simp

section Rows

variable [IdSupply]

/-- What a first and a last reading make of a row. The first one gives the identifier that it comes
with, or the next one that is issued. -/
def Upsert.row (first last : Upsert) : Snapshot :=
  { last.snapshot with
    id := some ((givenId? first.snapshot.id).getD (freshId first.issued))
    createdAt := some ⟨first.moment, none⟩
    updatedAt := some ⟨last.moment, none⟩ }

/-- The row that the readings of one campaign make, if there are any. -/
def rowOf : List Upsert → Option Snapshot
  | [] => none
  | first :: rest => some (first.row (rest.getLastD first))

/-- One more reading leaves what the first one gave. -/
theorem row_snoc (readings : List Upsert) (new : Upsert) :
    rowOf (readings ++ [new]) = some ((readings.headD new).row new) := by
  cases readings with
  | nil => rfl
  | cons first rest => simp [rowOf]

/-- The rows of a store are those that some readings make, in the order of the first ones. -/
structure Follows (readings : List Upsert) (store : Store) : Prop where
  campaigns : store.campaigns.map (·.campaignId) = campaignsOf readings
  row : ∀ campaignId, store.campaign? campaignId = rowOf (readingsOf campaignId readings)

/-! ## What one call does to the rows -/

variable {memory : Memory} {readings : List Upsert}

/-- No call changes a row but one that stores a reading. -/
theorem campaigns_kept {call : Call} (other : ∀ snapshot, call ≠ .upsertCampaign snapshot) :
    (call.answer memory).2.store.campaigns = memory.store.campaigns := by
  have effect : Effect memory call (call.answer memory).1 (call.answer memory).2 :=
    call_effect call
  generalize (call.answer memory).1 = reply, (call.answer memory).2 = after at effect
  cases effect with
  | kept counted issued more shown => rfl
  | measured snapshot => exact absurd rfl (other snapshot)
  | created draft owner => rfl
  | changed rule change found made => rfl
  | deleted id => rfl
  | recorded rule log issued more found first identified => rfl

/-- A reading makes the row that follows from the readings before it and from itself. -/
theorem Follows.upserted_row (follows : Follows readings memory.store) (moment : Int)
    (snapshot : Snapshot) :
    (memory.store.upsert ⟨moment, none⟩ memory.issued snapshot).1 =
      ((readingsOf snapshot.campaignId readings).headD ⟨moment, memory.issued, snapshot⟩).row
        ⟨moment, memory.issued, snapshot⟩ := by
  have row := follows.row snapshot.campaignId
  cases before : readingsOf snapshot.campaignId readings with
  | nil =>
    rw [before, rowOf] at row
    simp only [Store.upsert, row]
    rfl
  | cons first rest =>
    rw [before, rowOf] at row
    simp only [Store.upsert, row]
    rfl

/-- The rows follow one more reading. -/
theorem Follows.upsert (follows : Follows readings memory.store) (moment : Int)
    (snapshot : Snapshot) :
    Follows (readings ++ [⟨moment, memory.issued, snapshot⟩])
      (memory.store.upsert ⟨moment, none⟩ memory.issued snapshot).2.1 where
  campaigns := by
    obtain ⟨puts, sameCampaign⟩ :=
      Store.upsert_puts memory.store ⟨moment, none⟩ memory.issued snapshot
    rw [puts, put_campaign_ids, sameCampaign, follows.campaigns, campaigns_snoc]
  row := by
    intro campaignId
    rw [readings_snoc]
    by_cases same : snapshot.campaignId = campaignId
    · subst same
      rw [if_pos rfl, row_snoc, ← follows.upserted_row]
      exact (Store.upsert_stored memory.store _ _ snapshot).1
    · rw [if_neg same, List.append_nil, ← follows.row campaignId]
      exact Store.upsert_other memory.store _ _ snapshot (Ne.symm same)

/-- The rows follow what the call of one more event stores. A call that stores no reading leaves
them as they are. -/
theorem Follows.step (follows : Follows readings memory.store) (event : Event) :
    Follows (readings ++ (event.upsert? memory.issued).toList)
      (event.answer memory).2.store := by
  obtain ⟨moment, call⟩ := event
  by_cases stores : ∃ snapshot, call = .upsertCampaign snapshot
  · obtain ⟨snapshot, rfl⟩ := stores
    exact follows.upsert moment snapshot
  · have other : ∀ snapshot, call ≠ .upsertCampaign snapshot := by
      rintro snapshot rfl
      exact stores ⟨snapshot, rfl⟩
    have silent : Event.upsert? ⟨moment, call⟩ memory.issued = none := by
      cases call with
      | upsertCampaign snapshot => exact absurd rfl (other snapshot)
      | latestCampaign | latestCampaignWithLogs _ | createRule _ _ | rule _ _ | rules
      | updateRule _ _ | setActive _ _ | deleteRule _ | activeRules | findLog _ _ _ _ | logs _ _
      | record _ | prepare => rfl
    have kept : (Event.answer ⟨moment, call⟩ memory).2.store.campaigns =
        memory.store.campaigns := campaigns_kept other
    rw [silent, Option.toList_none, List.append_nil]
    exact ⟨kept ▸ follows.campaigns, fun campaignId => by
      rw [Store.campaign?, kept]
      exact follows.row campaignId⟩

/-- By induction on the events, of which each sees the memory that the ones before it left. -/
theorem run_from_follows (follows : Follows readings memory.store) (history : List Event) :
    Follows (readings ++ upsertsFrom memory history) (runFrom memory history).store := by
  induction history generalizing readings memory with
  | nil => simpa [upsertsFrom, runFrom] using follows
  | cons event rest inductionHypothesis =>
    have later := inductionHypothesis (follows.step event)
    simpa [upsertsFrom, runFrom] using later

/-- After every history the rows follow the readings in it. By induction on the history; only
readings write rows, as `call_follows` says. -/
theorem run_follows (history : List Event) : Follows (upserts history) (run history).store := by
  have nothing : Follows [] start.store := ⟨rfl, fun _ => rfl⟩
  exact run_from_follows nothing history

/-! ## The latest row -/

/-- The latest row is the one that was synchronised last by the times that the rows have now, of
several the one whose campaign was read first. There is none before the first reading, and the query
fails where the times of the rows are mixed. -/
structure ShowsLatest (readings : List Upsert) (memory : Memory) : Prop where
  nothing : repository.latestCampaign.result memory = .ok none ↔ readings = []
  failing : ∀ failure, repository.latestCampaign.result memory = .error failure ↔
    failure = .mixedTimes ∧ Timestamp.Mixed (memory.store.campaigns.map (·.syncedAt))
  found : readings ≠ [] → ¬ Timestamp.Mixed (memory.store.campaigns.map (·.syncedAt)) →
    ∃ row, FirstLatest (·.syncedAt) memory.store.campaigns row ∧
      repository.latestCampaign.result memory = .ok (some row)

/-- There are rows as soon as there are readings. -/
theorem Follows.empty_iff (follows : Follows readings memory.store) :
    memory.store.campaigns = [] ↔ readings = [] := by
  have same := follows.campaigns
  constructor
  · intro empty
    cases readings with
    | nil => rfl
    | cons first rest =>
      rw [empty, List.map_nil, campaignsOf, List.map_cons, List.eraseDups_cons] at same
      cases same
  · rintro rfl
    exact List.map_eq_nil_iff.mp same

/-- Rows that follow the readings answer the question for the latest one as the readings say, also
where several have the same moment. -/
theorem Follows.shows_latest (follows : Follows readings memory.store) :
    ShowsLatest readings memory := by
  have asks : repository.latestCampaign.result memory =
      latest? (·.syncedAt) memory.store.campaigns := query_result Store.latestCampaign
  rcases latest_course Snapshot.syncedAt memory.store.campaigns with
    ⟨empty, nothing⟩ | ⟨mixed, failed⟩ | ⟨ordered, row, isLatest, found⟩
  · have unmixed : ¬ Timestamp.Mixed (memory.store.campaigns.map (·.syncedAt)) := by
      simp [empty, Timestamp.Mixed]
    have unread := follows.empty_iff.mp empty
    rw [nothing] at asks
    exact ⟨by simp [asks, unread], by simp [asks, unmixed], fun read => absurd unread read⟩
  · have filled : memory.store.campaigns ≠ [] := by
      intro empty
      simp [empty, Timestamp.Mixed] at mixed
    have read : readings ≠ [] := fun unread => filled (follows.empty_iff.mpr unread)
    rw [failed] at asks
    exact ⟨by simp [asks, read], by simp [asks, mixed, eq_comm],
      fun _ unmixed => absurd mixed unmixed⟩
  · have filled : memory.store.campaigns ≠ [] := by
      obtain ⟨earlier, later, split, _⟩ := isLatest
      simp [split]
    have read : readings ≠ [] := fun unread => filled (follows.empty_iff.mpr unread)
    rw [found] at asks
    exact ⟨by simp [asks, read], by simp [asks, ordered], fun _ _ => ⟨row, isLatest, asks⟩⟩

/-! ## Every history -/

/-- After every history the rows are those of its readings: one for each campaign that was read, in
the order of the first readings, with what the first reading of the campaign gave it and otherwise
what the last one did. No other call changes a row. The latest row is looked for by the times of
these rows. -/
theorem rows_follow_readings (history : List Event) :
    Follows (upserts history) (run history).store ∧
      ((run history).store.campaigns.map (·.campaignId)).Nodup ∧
      (∀ moment (call : Call), (∀ snapshot, call ≠ .upsertCampaign snapshot) →
        (call.answer ((run history).setClock moment)).2.store.campaigns =
          (run history).store.campaigns) ∧
      ShowsLatest (upserts history) (run history) := by
  have follows : Follows (upserts history) (run history).store := run_follows history
  refine ⟨follows, ?_, ?_, follows.shows_latest⟩
  · rw [follows.campaigns]
    exact campaigns_nodup _
  · intro moment call other
    exact campaigns_kept other

end Rows

/-- A reading of a campaign without costs, synchronised at a moment. -/
def readingOf (campaignId : String) (syncedAt : Timestamp) : Snapshot :=
  ⟨unspent, none, campaignId, defaultCampaignName, syncedAt, none, none⟩

/-- Two campaigns are read at one time, and the first of them once more at an earlier one. -/
def reread : List Event :=
  [⟨0, .upsertCampaign (readingOf "summer" ⟨5, none⟩)⟩,
    ⟨1, .upsertCampaign (readingOf "winter" ⟨5, none⟩)⟩, ⟨2, .rules⟩,
    ⟨3, .upsertCampaign { readingOf "summer" ⟨4, none⟩ with id := some "given" }⟩]

/-- Two campaigns, one of which is read twice. The row of that one keeps its identifier and its
birth; the latest row is that of the reading with the latest moment, whichever came first. -/
theorem sample_rows :
    (run reread).store.campaigns.map (fun row => (row.campaignId, row.id, row.createdAt)) =
        [("summer", some (freshId 0), some ⟨0, none⟩),
          ("winter", some (freshId 1), some ⟨1, none⟩)] ∧
      (repository.latestCampaign.result (run (reread.take 3))).toOption =
        some ((run (reread.take 3)).store.campaign? "summer") ∧
      (repository.latestCampaign.result (run reread)).toOption =
        some ((run reread).store.campaign? "winter") ∧
      Follows (upserts reread) (run reread).store ∧
      ((Call.activeRules).answer ((run reread).setClock 4)).2.store.campaigns =
        (run reread).store.campaigns ∧
      ∃ row, FirstLatest (·.syncedAt) (run reread).store.campaigns row ∧
        repository.latestCampaign.result (run reread) = .ok (some row) := by
  obtain ⟨follows, _, kept, latest⟩ := rows_follow_readings reread
  have unmixed : ¬ Timestamp.Mixed ((run reread).store.campaigns.map (·.syncedAt)) :=
    Timestamp.uniform_iff.mp (by decide +kernel)
  exact ⟨by decide +kernel, by decide +kernel, by decide +kernel, follows,
    kept 4 .activeRules (by simp), latest.found (by decide +kernel) unmixed⟩

end AdRules.Memory

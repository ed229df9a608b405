import AdRules.Proofs.Synchronisation

/-!
# What the status of an answer decides

An answer whose status is from 400 to 599 is refused, whatever its body holds: nothing is fetched,
and a synchronisation ends without having touched a store. Every other status is passed over, so
that a redirection with a readable body is taken for a success.
-/

namespace AdRules

variable {σ : Type}

namespace MetricsSource

/-- The request for the insights of a campaign, of the configured one when none is given. -/
def requestFor (configuration : Configuration) (token : String) (campaignId : Value) :
    InsightsRequest :=
  ⟨insightsUrl configuration (orDefault campaignId configuration.campaignId), token,
    configuration.timeout⟩

variable {configuration : Configuration} {token : String} {campaignId name : Value}
  {clock : Act σ Timestamp} {ask : InsightsRequest → Act σ SourceAnswer} {status : Int}
  {reason text : String} {depth : Nat}

/-- A default that has been filled in is kept. -/
theorem or_default_twice (value : Value) (default : String) :
    orDefault (orDefault value default) default = orDefault value default := by
  unfold orDefault
  split
  · split <;> rfl
  · rfl

/-- With a token the source is asked. -/
theorem request_made (given : configuration.token = some token) (filled : token ≠ "") :
    request? configuration (orDefault campaignId configuration.campaignId) =
      some (requestFor configuration token campaignId) := by
  simp [request?, given, filled, requestFor]

/-- A fetch gives what is read from the answer. -/
theorem fetch_answered (given : configuration.token = some token) (filled : token ≠ "")
    {answer : SourceAnswer} {state after left : σ} {now : Timestamp}
    (asked : ask (requestFor configuration token campaignId) state = .ok answer after)
    (shown : clock after = .ok now left) :
    fetch depth configuration clock ask campaignId name state =
      Act.ofExcept (snapshot depth now (orDefault campaignId configuration.campaignId)
        (orDefault name configuration.campaignName) answer) left := by
  simp only [fetch, request_made given filled, Act.bind_apply, asked, shown]

variable {now : Timestamp}

/-- An answer with a status from 400 to 599 is refused unread. -/
theorem snapshot_refused (refusing : 400 ≤ status ∧ status < 600) :
    snapshot depth now campaignId name (.reply status reason text) =
      .error (.source (.refused status reason text)) := by
  have refused : isRefusal status = true := decide_eq_true refusing
  simp only [snapshot, body, refused, if_true, bind, Except.bind]

/-- Any other status and its reason are passed over. -/
theorem snapshot_taken {other : Int} (taken : ¬ (400 ≤ status ∧ status < 600))
    (alike : ¬ (400 ≤ other ∧ other < 600)) (otherReason : String) :
    snapshot depth now campaignId name (.reply status reason text) =
      snapshot depth now campaignId name (.reply other otherReason text) := by
  have first : isRefusal status = false := decide_eq_false taken
  have second : isRefusal other = false := decide_eq_false alike
  simp only [snapshot, body, first, second, Bool.false_eq_true, if_false]

/-- Fetching fails with the refusal, and only the request has changed anything. -/
theorem fetch_refused (ticking : ∀ state, ∃ now, clock state = .ok now state)
    (given : configuration.token = some token) (filled : token ≠ "") {state after : σ}
    (asked : ask (requestFor configuration token campaignId) state =
      .ok (.reply status reason text) after) (refusing : 400 ≤ status ∧ status < 600) :
    fetch depth configuration clock ask campaignId name state =
      .error (.source (.refused status reason text)) after := by
  obtain ⟨now, shown⟩ := ticking after
  rw [fetch_answered given filled asked shown, snapshot_refused refusing]
  rfl

end MetricsSource

/-- A synchronisation that fetches nothing changes nothing outside but by its request, as long as
clocks only show the time. -/
theorem Sync.synchronise_unanswered {services : Services σ} {campaignId : Value}
    (ticking : ∀ state, ∃ now, services.clock state = .ok now state) (remembered : SyncMemory)
    {state left : σ} {failure : Failure}
    (fetching : fetch services campaignId state = .error failure left) :
    ∃ result, synchronise services campaignId (remembered, state) =
      .error failure (⟨.idle, some result, some failure.message⟩, left) := by
  have responds : services.clock.Responds := by
    intro before
    obtain ⟨now, shown⟩ := ticking before
    exact ⟨now, before, shown⟩
  obtain ⟨startedAt, ticked⟩ := ticking state
  obtain ⟨work, result, completedAt, _, ended, _, noted, _, finished⟩ :=
    course_ends remembered responds ticked (.unfetched failure left fetching)
  obtain ⟨now, shown⟩ := ticking left
  rw [shown] at finished
  obtain ⟨_, still⟩ := EStateM.Result.ok.inj finished
  exact ⟨result, by rw [ended, noted, still]⟩

open MetricsSource

/-- A refusal ends a synchronisation, and only the request has changed anything. -/
theorem Sync.synchronise_refused {services : Services σ} {token : String} {campaignId : Value}
    (ticking : ∀ state, ∃ now, services.clock state = .ok now state) (remembered : SyncMemory)
    (given : services.configuration.token = some token) (filled : token ≠ "") {state after : σ}
    {status : Int} {reason text : String}
    (asked : services.ask (requestFor services.configuration token campaignId) state =
      .ok (.reply status reason text) after) (refusing : 400 ≤ status ∧ status < 600) :
    ∃ noted, synchronise services campaignId (remembered, state) =
      .error (.source (.refused status reason text)) (noted, after) := by
  have sameRequest : requestFor services.configuration token
      (orDefault campaignId services.configuration.campaignId) =
        requestFor services.configuration token campaignId := by
    simp only [requestFor, or_default_twice]
  obtain ⟨_, ended⟩ := synchronise_unanswered ticking remembered
    (fetch_refused ticking given filled (sameRequest ▸ asked) refusing)
  exact ⟨_, ended⟩

/-- What the status of an answer decides, for every service with a token and a clock that only shows
the time. From 400 to 599 the answer is refused, whatever its body is: fetching fails, a
synchronisation fails with the same, and nothing changes but by the request, so that a store in
memory stays as it is. With every other status fetching goes on as with a success. -/
theorem status_decides [IdSupply] (services : Services σ) (token : String) (campaignId name : Value)
    (remembered : SyncMemory) (state after : σ) (status : Int) (reason text : String)
    (ticking : ∀ state, ∃ now, services.clock state = .ok now state)
    (given : services.configuration.token = some token) (filled : token ≠ "")
    (asked : services.ask (requestFor services.configuration token campaignId) state =
      .ok (.reply status reason text) after) :
    (400 ≤ status ∧ status < 600 →
      fetch services.depth services.configuration services.clock services.ask campaignId name
            state = .error (.source (.refused status reason text)) after ∧
        (∃ noted, Sync.synchronise services campaignId (remembered, state) =
          .error (.source (.refused status reason text)) (noted, after)) ∧
        ∀ memory : Memory, ∃ noted,
          Sync.synchronise
              (Memory.services services.depth services.configuration services.ask) campaignId
              (remembered, memory, state) =
            .error (.source (.refused status reason text)) (noted, memory, after)) ∧
      (¬ (400 ≤ status ∧ status < 600) →
        ∀ succeeding : InsightsRequest → Act σ SourceAnswer,
          succeeding (requestFor services.configuration token campaignId) state =
              .ok (.reply 200 "OK" text) after →
            fetch services.depth services.configuration services.clock services.ask campaignId
                name state =
              fetch services.depth services.configuration services.clock succeeding campaignId
                name state) := by
  constructor
  · intro refusing
    refine ⟨fetch_refused ticking given filled asked refusing,
      Sync.synchronise_refused ticking remembered given filled asked refusing, ?_⟩
    intro memory
    have inMemory : (Memory.services services.depth services.configuration services.ask).ask
        (requestFor services.configuration token campaignId) (memory, state) =
          .ok (.reply status reason text) (memory, after) := by
      simp only [Memory.services, Services.withSource, Act.on_part_apply, asked]
    exact Sync.synchronise_refused (fun whole => ⟨whole.1.now, Memory.services_tick _ _ _ whole⟩)
      remembered given filled inMemory refusing
  · intro taken succeeding succeeded
    obtain ⟨now, shown⟩ := ticking after
    have success : ¬ ((400 : Int) ≤ 200 ∧ (200 : Int) < 600) := by decide
    rw [fetch_answered given filled asked shown, fetch_answered given filled succeeded shown,
      snapshot_taken taken success "OK"]

/-- Insights with a figure that can be read, so that only the status can decide what becomes of
them. -/
def readableBody : String := "\x7b\"data\": \x7b\"spend\": \"1\"\x7d\x7d"

/-- Services with a store in memory, for which every request is answered alike. -/
def answering (status : Int) (reason text : String) : Services (Memory × Unit) :=
  Memory.services Json.usualDepth Memory.sampleConfiguration fun _ =>
    pure (.reply status reason text)

/-- A server that is unavailable lets a synchronisation fail, and with it nothing is stored. A
redirection that nobody followed is read like a success: the status in between decides nothing. -/
theorem sample_status :
    (∃ noted, Sync.synchronise (answering 503 "Service Unavailable" readableBody) .null
        (.start, Memory.run Memory.sample, ()) =
      .error (.source (.refused 503 "Service Unavailable" readableBody))
        (noted, Memory.run Memory.sample, ())) ∧
      fetch Json.usualDepth Memory.sampleConfiguration (answering 302 "Found" readableBody).clock
          (answering 302 "Found" readableBody).ask .null .null (Memory.run Memory.sample, ()) =
        fetch Json.usualDepth Memory.sampleConfiguration (answering 302 "Found" readableBody).clock
          (answering 200 "OK" readableBody).ask .null .null (Memory.run Memory.sample, ()) := by
  have ticking (status : Int) (reason : String) (state : Memory × Unit) :
      ∃ now, (answering status reason readableBody).clock state = .ok now state :=
    ⟨_, Memory.services_tick Json.usualDepth Memory.sampleConfiguration _ state⟩
  have filled : "token" ≠ "" := by decide
  exact ⟨((status_decides (answering 503 "Service Unavailable" readableBody) "token" .null .null
      .start _ _ 503 "Service Unavailable" readableBody (ticking _ _) rfl filled rfl).1
        (by decide)).2.1,
    (status_decides (answering 302 "Found" readableBody) "token" .null .null .start _ _ 302 "Found"
      readableBody (ticking _ _) rfl filled rfl).2 (by decide) _ rfl⟩

/-- A redirection is taken for a success, so that not every status outside the two hundreds is a
failure. Its body is then read as that of a success would be. -/
theorem redirection_read :
    ¬ ∀ (configuration : Configuration) (token : String) (campaignId name : Value) (status : Int)
        (reason text : String), configuration.token = some token → token ≠ "" →
      ¬ (200 ≤ status ∧ status < 300) →
      ∃ fault after, fetch Json.usualDepth configuration (pure ⟨0, none⟩ : Act Unit Timestamp)
        (fun _ => pure (.reply status reason text)) campaignId name () =
          .error (.source fault) after := by
  intro refused
  obtain ⟨fault, after, failed⟩ := refused Memory.sampleConfiguration "token" .null .null 302
    "Found" readableBody rfl (by decide) (by decide)
  have succeeded : (match fetch Json.usualDepth Memory.sampleConfiguration (pure ⟨0, none⟩)
      (fun _ => pure (.reply 302 "Found" readableBody)) .null .null () with
      | .ok _ _ => true
      | .error _ _ => false) = true := by decide +kernel
  rw [failed] at succeeded
  cases succeeded

end AdRules

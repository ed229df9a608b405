import AdRules.Configuration
import AdRules.Insights
import AdRules.Json.Reader
import AdRules.Repository

/-!
# The metrics source

One authorised request per campaign. What the source does with a request is outside the library;
what becomes of its answer is decided here. Redirections are followed and bodies decoded by the
client that sends requests, which is outside as well: an answer is taken as that client hands it
over, with its status, its reason and its body as a text. A campaign is meant to be named by a text.
-/

namespace AdRules

/-- The insights that are asked for, in this order. -/
def insightFields : List Metric :=
  [.inlineLinkClicks, .costPerInlineLinkClick, .reach, .frequency, .cpc, .spend, .clicks,
   .impressions, .ctr]

/-- A request for the insights of a campaign: where it goes and what it says. How it is sent is left
    to the source. -/
structure InsightsRequest where
  url : String
  token : String
  timeout : Int
  deriving DecidableEq

/-- What came of a request, redirections having been followed already. -/
inductive SourceAnswer where
  /-- An answer with its status line and body. -/
  | reply (status : Int) (reason body : String)
  /-- No answer. -/
  | unreachable (reason : String)
  /-- A failure that is not one of the source. -/
  | broken (failure : Failure)

/-- Statuses from 400 to 599 refuse the request. All others count as success, those below 200 and
    between 300 and 399 as well. -/
def isRefusal (status : Int) : Bool := decide (400 ≤ status ∧ status < 600)

namespace MetricsSource

/-- An address without slashes at its end. -/
def trimSlashes (url : String) : String :=
  String.ofList ((url.toList.reverse.dropWhile (· = '/')).reverse)

/-- The address of a campaign's insights. -/
def insightsUrl (configuration : Configuration) (campaignId : Value) : String :=
  trimSlashes configuration.baseUrl ++ "/" ++ campaignId.plain ++ "/insights"

/-- The request for a campaign's insights, when there is a token for it. -/
def request? (configuration : Configuration) (campaignId : Value) : Option InsightsRequest :=
  (configuration.token.filter (!·.isEmpty)).map fun token =>
    ⟨insightsUrl configuration campaignId, token, configuration.timeout⟩

/-- The insights in an answer, nested at most so deeply. -/
def body (depth : Nat) : SourceAnswer → Except Failure Value
  | .unreachable reason => .error (.source (.unreachable reason))
  | .broken failure => .error failure
  | .reply status reason text =>
    if isRefusal status then .error (.source (.refused status reason text))
    else
      match Json.read depth text with
      | .ok value => .ok value
      | .error refusal =>
        if refusal.reason.isDepth then .error (.tooDeep refusal.reason.text)
        else .error (.source (.notJson (refusal.message text)))

/-- The snapshot in an answer, the body being read only if the status is no refusal. -/
def snapshot (depth : Nat) (now : Timestamp) (campaignId name : Value) (answer : SourceAnswer) :
    Except Failure Snapshot := do
  let value ← body depth answer
  match Insights.read now campaignId name value with
  | .ok snapshot => pure snapshot
  | .error fault => throw (.source fault)

/-- A value, or a default when nothing is given. An empty value counts as nothing. -/
def orDefault (value : Value) (default : String) : Value :=
  if value.isEmpty then .text default else value

/-- Asks the source for the snapshot of a campaign. Without a token nothing is asked. -/
def fetch {σ : Type} (depth : Nat) (configuration : Configuration) (now : Act σ Timestamp)
    (ask : InsightsRequest → Act σ SourceAnswer) (campaignId name : Value) : Act σ Snapshot := do
  let campaignId := orDefault campaignId configuration.campaignId
  let name := orDefault name configuration.campaignName
  match request? configuration campaignId with
  | none => throw (.source .unconfigured)
  | some request =>
    let answer ← ask request
    Act.ofExcept (snapshot depth (← now) campaignId name answer)

end MetricsSource

end AdRules

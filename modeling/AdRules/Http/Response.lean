import AdRules.Validation.Issue
import AdRules.Value.Finite
import AdRules.Value.Whole
import AdRules.Json.Reader

/-!
# Responses

A response is a record or a plain text under a status. Records of the library's own types show
doubles that are not finite as null; other records cannot hold them, and no record can hold half of
a surrogate pair. An answer that would is broken.
-/

namespace AdRules.Http

/-- The answer to a request: a status with a record or with a plain text. Headers are left out. -/
inductive Response where
  | record (status : Nat) (body : Value)
  | text (status : Nat) (body : String)

namespace Response

/-- The answer where something went wrong that is nobody's business. Its text says no more. -/
def broken : Response := .text 500 "Internal Server Error"

/-- A value can be shown in a response: none of its doubles is infinite or not-a-number, and none of
    its texts has a stray half. -/
def canShow (body : Value) : Bool := body.isFinite && body.isWhole

/-- Any record that can be shown, and otherwise the breaking of the answer. -/
def ofValue (status : Nat) (body : Value) : Response :=
  if canShow body then .record status body else broken

/-- A record of one of the library's types, whose doubles are shown as null where they are not
    finite. -/
def ofModel (status : Nat) (body : Value) : Response := ofValue status body.finitePart

/-- A refusal that says why, in a record with this one field. -/
def refused (status : Nat) (detail : Value) : Response :=
  ofValue status (.record [("detail", detail)])

/-- A refusal that says why in words. -/
def refusedWith (status : Nat) (detail : String) : Response := refused status (.text detail)

/-- The refusal of a request with unsound parts, each of which is shown beside its issue. -/
def unsound (issues : List Issue) : Response :=
  if issues.all fun issue => canShow issue.input then
    refused 422 (.list (issues.map Issue.toValue))
  else broken

/-- The refusal of a body that cannot be read at all. -/
def unreadable : Response := refusedWith 400 "There was an error parsing the body"

/-- The refusal of a body that is not JSON, with the place at which reading stopped. -/
def notJson (refusal : Json.Refusal) : Response :=
  if refusal.reason.isLimit then unreadable
  else
    refused 422 (.list [.record
      [("loc", .list [.text "body", .int refusal.position]), ("type", .text "json_invalid"),
       ("msg", .text "JSON decode error")]])

/-- The answer to a request that is interested in the status only. -/
def withoutBody : Response → Response
  | .record status _ | .text status _ => .text status ""

end Response

end AdRules.Http

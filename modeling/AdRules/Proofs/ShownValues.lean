import AdRules.Http.Interface
import AdRules.Proofs.Checks

/-!
# What responses can show

A response can show a value when its numbers are finite and its texts are whole. The issues that a
check finds have no numbers but positions, so they can be shown when their paths and their wordings
are whole. Refusals say little of what they refuse, so that they can be shown unless that little is
not whole: the name of a tool, the name of an argument, or a body that is no record.
-/

namespace AdRules

/-! ## Finite values -/

namespace Value

variable {α : Type}

/-- A list is finite exactly if its items are. By induction on the items. -/
theorem items_finite_iff (items : List Value) :
    itemsFinite items = true ↔ ∀ item ∈ items, item.isFinite = true := by
  induction items with
  | nil => simp [itemsFinite]
  | cons item rest inductionHypothesis => simp [itemsFinite, inductionHypothesis]

/-- Converted entries are finite when every entry is. -/
theorem map_finite {convert : α → Value} {entries : List α}
    (each : ∀ entry ∈ entries, (convert entry).isFinite = true) :
    itemsFinite (entries.map convert) = true := by
  rw [items_finite_iff]
  intro item member
  obtain ⟨entry, listed, rfl⟩ := List.mem_map.mp member
  exact each entry listed

/-- A list is whole exactly if its items are. By induction on the items. -/
theorem items_whole_iff (items : List Value) :
    itemsWhole items = true ↔ ∀ item ∈ items, item.isWhole = true := by
  induction items with
  | nil => simp [itemsWhole]
  | cons item rest inductionHypothesis => simp [itemsWhole, inductionHypothesis]

/-- A text that may be missing holds no double, so it is finite. -/
theorem of_text_finite (content : Option String) : (ofText? content).isFinite = true := by
  cases content <;> rfl

mutual

/-- Writing out times leaves the numbers. By induction on the value, its items and its fields. -/
theorem dated_finite (write : Timestamp → String) :
    ∀ value : Value, (value.dated write).isFinite = value.isFinite
  | .null | .bool _ | .int _ | .float _ | .text _ | .time _ => rfl
  | .list items => by simp only [dated, isFinite, dated_items_finite write items]
  | .record fields => by simp only [dated, isFinite, dated_fields_finite write fields]

/-- Writing the times in a list makes none of its doubles finite or infinite. By induction on the
items. -/
theorem dated_items_finite (write : Timestamp → String) :
    ∀ items : List Value, itemsFinite (datedItems write items) = itemsFinite items
  | [] => rfl
  | item :: rest => by
    simp only [datedItems, itemsFinite, dated_finite write item, dated_items_finite write rest]

/-- Writing the times in a record makes none of its doubles finite or infinite. By induction on the
fields. -/
theorem dated_fields_finite (write : Timestamp → String) :
    ∀ fields : Fields, fieldsFinite (datedFields write fields) = fieldsFinite fields
  | [] => rfl
  | (_, value) :: rest => by
    simp only [datedFields, fieldsFinite, dated_finite write value, dated_fields_finite write rest]

end

end Value

namespace Http.Response

/-- The status of a response. -/
def status : Response → Nat
  | .record status _ | .text status _ => status

/-- A value that can be shown is the answer, under its status. -/
theorem of_value_shown {status : Nat} {value : Value}
    (shown : canShow value = true) : ofValue status value = .record status value :=
  if_pos shown

/-- A value that cannot be shown breaks the answer, whatever the status was to be. -/
theorem of_value_hidden {status : Nat} {value : Value}
    (hidden : canShow value = false) : ofValue status value = .broken :=
  if_neg (Bool.eq_false_iff.mp hidden)

end Http.Response

/-! ## Issues that can be shown -/

/-- The text of a step is whole. -/
def Step.Whole : Step → Prop
  | .field name => Text.isWhole name = true
  | .index _ => True

/-- A step to a part is whole if it is a position or a whole name. -/
theorem Step.whole_iff (step : Step) : step.toValue.isWhole = true ↔ step.Whole := by
  cases step <;> simp [Step.toValue, Step.Whole, Value.isWhole]

/-- Issues can be shown when their paths and their wordings are whole. -/
theorem issues_shown_iff (issues : List Issue) :
    Http.Response.canShow (.record [("detail", .list (issues.map Issue.toValue))]) = true ↔
      ∀ issue ∈ issues, (∀ step ∈ issue.path, step.Whole) ∧
        Text.isWhole issue.complaint.text = true := by
  have codes : ∀ complaint : Complaint, Text.isWhole complaint.code = true := by
    intro complaint
    cases complaint <;> simp only [Complaint.code] <;> decide
  have numbers : ∀ issue ∈ issues, issue.toValue.isFinite = true := by
    intro issue _
    have path : Value.itemsFinite (issue.path.map Step.toValue) = true :=
      Value.map_finite fun step _ => by cases step <;> rfl
    simp [Issue.toValue, Value.isFinite, Value.fieldsFinite, path]
  have names : Text.isWhole "detail" = true ∧ Text.isWhole "loc" = true ∧
      Text.isWhole "type" = true ∧ Text.isWhole "msg" = true := by decide
  obtain ⟨detail, loc, type, msg⟩ := names
  have texts : ∀ issue : Issue, issue.toValue.isWhole = true ↔
      (∀ step ∈ issue.path, step.Whole) ∧ Text.isWhole issue.complaint.text = true := by
    intro issue
    simp [Issue.toValue, Value.isWhole, Value.fieldsWhole, loc, type, msg, codes,
      Value.items_whole_iff, Step.whole_iff]
  simp [Http.Response.canShow, Value.isFinite, Value.fieldsFinite, Value.map_finite numbers,
    Value.isWhole, Value.fieldsWhole, detail, Value.items_whole_iff, texts]

namespace Checked

variable {α β : Type}

/-- The issues that were found. -/
def issues : Checked α → List Issue
  | .valid _ => []
  | .invalid issues => issues

/-- Converting a value leaves the issues of its check. -/
@[simp] theorem issues_of_map (f : α → β) (checked : Checked α) :
    (checked.map f).issues = checked.issues := by
  cases checked <;> rfl

/-- Converting a value leaves the issues of its check, also where it is written as an operator. -/
@[simp] theorem issues_map (f : α → β) (checked : Checked α) :
    (f <$> checked).issues = checked.issues := by
  cases checked <;> rfl

/-- The issues of two checks are joined, those of the first one first. -/
@[simp] theorem issues_seq (f : Checked (α → β)) (checked : Checked α) :
    (f <*> checked).issues = f.issues ++ checked.issues := by
  cases f <;> cases checked <;> simp [Seq.seq, both, issues]

/-- Issues of a part are issues of the whole with one more step in their paths. -/
@[simp] theorem issues_under (step : Step) (checked : Checked α) :
    (checked.under step).issues = checked.issues.map (Issue.under step) := by
  cases checked <;> rfl

/-- A model that forbids other fields complains of each that was given, under its name. This is
where a name that cannot be shown gets into an answer. -/
theorem issues_only_fields (names : List String) (fields : Fields) :
    (onlyFields names fields).issues =
      (fields.filter fun field => !names.contains field.1).map fun field =>
        ⟨[.field field.1], .unexpected, field.2⟩ := by
  unfold onlyFields
  split
  · next kept =>
    rw [kept]
    rfl
  · rfl

/-- Every issue is one of the checked value itself, in whole words. -/
def Plain (checked : Checked α) : Prop :=
  ∀ issue ∈ checked.issues, issue.path = [] ∧ Text.isWhole issue.complaint.text = true

/-- A value has no issues, so none that could not be shown. -/
theorem plain_valid (value : α) : (Checked.valid value).Plain := by
  intro issue member
  cases member

/-- A fault about the value itself can be shown when its wording can. -/
theorem plain_fault {complaint : Complaint} (whole : Text.isWhole complaint.text = true)
    (input : Value) : (fault complaint input : Checked α).Plain := by
  intro issue member
  cases List.mem_singleton.mp member
  exact ⟨rfl, whole⟩

/-- A check after a check has issues that can be shown where both have. -/
theorem plain_and_then {checked : Checked α} {next : α → Checked β} (first : checked.Plain)
    (rest : ∀ value, (next value).Plain) : (checked.andThen next).Plain := by
  cases checked with
  | valid value => exact rest value
  | invalid issues => exact first

end Checked

open Checked

/-- Checking an integer finds issues of the integer only. -/
theorem Check.int_plain (input : Value) : (Check.int input).Plain := by
  unfold Check.int
  cases input with
  | int value => exact plain_valid value
  | bool value => exact plain_valid _
  | float value =>
    simp only [Check.wholeDouble]
    split
    · split
      · exact plain_fault (by decide) _
      · split
        · exact plain_valid _
        · exact plain_fault (by decide) _
    · exact plain_fault (by decide) _
  | text content =>
    simp only [Check.whole]
    split
    · split
      · exact plain_valid _
      · exact plain_fault (by decide) _
      · exact plain_fault (by decide) _
    · exact plain_fault (by decide) _
  | null | time _ | list _ | record _ => exact plain_fault (by decide) _

/-- Whatever is given for a limit, what is wrong with it can be shown. -/
theorem Check.int_between_plain (input : Value) : (Check.intBetween 1 100 input).Plain := by
  refine plain_and_then (plain_and_then (Check.int_plain input) fun value => ?_) fun value => ?_
  · split
    · exact plain_valid value
    · exact plain_fault (by decide) input
  · split
    · exact plain_valid value
    · exact plain_fault (by decide) input

/-! ## Refusals -/

namespace Http

variable {σ : Type}

/-- Each issue of the arguments of a tool stands in one field and is put in whole words. -/
theorem Tool.issue_found (services : Services σ) (tool : Tool) (arguments : Fields) :
    ∀ issue ∈ (tool.run services arguments).issues, Text.isWhole issue.complaint.text = true ∧
      (issue.path = [.field "limit"] ∨ ∃ field ∈ arguments, issue.path = [.field field.1]) := by
  have extra : ∀ names, ∀ issue ∈ (onlyFields names arguments).issues,
      Text.isWhole issue.complaint.text = true ∧
        (issue.path = [.field "limit"] ∨ ∃ field ∈ arguments, issue.path = [.field field.1]) := by
    intro names issue found
    rw [issues_only_fields] at found
    obtain ⟨field, refused, rfl⟩ := List.mem_map.mp found
    have whole : Text.isWhole Complaint.unexpected.text = true := by decide
    exact ⟨whole, .inr ⟨field, (List.mem_filter.mp refused).1, rfl⟩⟩
  have limit : ∀ issue ∈ (Checked.optional arguments "limit" defaultToolLimit
      (Check.intBetween 1 100)).issues, Text.isWhole issue.complaint.text = true ∧
        issue.path = [.field "limit"] := by
    intro issue found
    unfold Checked.optional at found
    split at found
    · next input _ =>
      rw [issues_under] at found
      obtain ⟨inner, among, rfl⟩ := List.mem_map.mp found
      obtain ⟨here, whole⟩ := Check.int_between_plain input inner among
      exact ⟨whole, by simp [Issue.under, here]⟩
    · cases found
  intro issue found
  cases tool with
  | actionLogs =>
    simp only [Tool.run, LogArguments.ofFields, issues_of_map, issues_map, issues_seq,
      List.mem_append] at found
    rcases found with atLimit | unexpected
    · exact ⟨(limit issue atLimit).1, .inl (limit issue atLimit).2⟩
    · exact extra _ issue unexpected
  | automationRules | campaignData | syncCampaign =>
    simp only [Tool.run, NoArguments.ofFields, issues_of_map, issues_map] at found
    exact extra _ issue found

/-- No tool takes an argument whose name is not whole. -/
theorem Tool.halved_refused (services : Services σ) (tool : Tool) {arguments : Fields}
    {field : String × Value} (given : field ∈ arguments) (halved : Text.isWhole field.1 = false) :
    ∃ issue ∈ (tool.run services arguments).issues, issue.path = [.field field.1] := by
  have extra : ∀ names : List String, (∀ name ∈ names, Text.isWhole name = true) →
      ∃ issue ∈ (onlyFields names arguments).issues, issue.path = [.field field.1] := by
    intro names whole
    have unlisted : names.contains field.1 = false := by
      by_contra listed
      have isWhole := whole field.1 (by simpa using listed)
      simp [halved] at isWhole
    rw [issues_only_fields]
    refine ⟨_, List.mem_map_of_mem (List.mem_filter.mpr ⟨given, ?_⟩), rfl⟩
    simpa using unlisted
  cases tool with
  | actionLogs =>
    obtain ⟨issue, found, path⟩ := extra ["limit"] (by decide)
    refine ⟨issue, ?_, path⟩
    simp only [Tool.run, LogArguments.ofFields, issues_of_map, issues_map, issues_seq]
    exact List.mem_append_right _ found
  | automationRules | campaignData | syncCampaign =>
    simp only [Tool.run, NoArguments.ofFields, issues_of_map, issues_map]
    exact extra [] (by simp)

/-- The refusal of arguments can be shown exactly when the names of all arguments are whole. -/
theorem refusal_shown_iff (services : Services σ) {tool : Tool} {arguments : Fields}
    {issues : List Issue} (invalid : tool.run services arguments = .invalid issues) :
    Response.canShow (.record [("detail", .list
      ((issues.map (Issue.under (.field "arguments"))).map Issue.toValue))]) = true ↔
      ∀ field ∈ arguments, Text.isWhole field.1 = true := by
  have same : (tool.run services arguments).issues = issues := by rw [invalid]; rfl
  have found := tool.issue_found services arguments
  have refused : ∀ field ∈ arguments, Text.isWhole field.1 = false →
      ∃ issue ∈ (tool.run services arguments).issues, issue.path = [.field field.1] :=
    fun field given halved => tool.halved_refused services given halved
  rw [same] at found refused
  have step : Text.isWhole "arguments" = true := by decide
  have limit : Text.isWhole "limit" = true := by decide
  rw [issues_shown_iff]
  constructor
  · intro shown field given
    by_contra halved
    obtain ⟨issue, among, path⟩ := refused field given (Bool.eq_false_iff.mpr halved)
    have whole := (shown _ (List.mem_map_of_mem among)).1 (.field field.1)
      (by simp [Issue.under, path])
    exact halved whole
  · intro whole outer among
    obtain ⟨issue, member, rfl⟩ := List.mem_map.mp among
    obtain ⟨wording, path⟩ := found issue member
    refine ⟨?_, wording⟩
    rcases path with path | ⟨field, given, path⟩
    · simp [Issue.under, path, Step.Whole, step, limit]
    · simp [Issue.under, path, Step.Whole, step, whole field given]

/-- What is said of an unknown name can be shown exactly when the name is whole. -/
theorem unknown_shown_iff (name : String) :
    Response.canShow (.record [("detail", .record [("error", .text ("Unknown tool: " ++ name))])]) =
      true ↔ Text.isWhole name = true := by
  have names : Text.isWhole "detail" = true ∧ Text.isWhole "error" = true := by decide
  have opening : ("Unknown tool: ".toList.all fun c => (Text.half? c).isNone) = true := by decide
  have joined : Text.isWhole ("Unknown tool: " ++ name) = Text.isWhole name := by
    rw [Text.isWhole, String.toList_append, List.all_append, opening, Bool.true_and, Text.isWhole]
  simp [Response.canShow, Value.isFinite, Value.fieldsFinite, Value.isWhole, Value.fieldsWhole,
    names, joined]

/-- An unsound body is refused if it can be shown. -/
theorem unsound_body (complaint : Complaint) (value : Value)
    (shown : Response.canShow value = true) (wording : Text.isWhole complaint.text = true) :
    ∃ detail, Response.unsound [⟨[.field "body"], complaint, value⟩] = .record 422 detail := by
  have place : Text.isWhole "body" = true := by decide
  have visible : Response.canShow (.record [("detail", .list
      ([(⟨[.field "body"], complaint, value⟩ : Issue)].map Issue.toValue))]) = true := by
    rw [issues_shown_iff]
    simp [Step.Whole, place, wording]
  have refusal : Response.ofValue 422 _ = .record 422 _ := Response.of_value_shown visible
  simp only [Response.unsound, List.all_cons, List.all_nil, shown, Bool.and_true, if_true,
    Response.refused, refusal]
  exact ⟨_, rfl⟩

/-- A body that cannot be read is refused. -/
theorem unreadable_refused : ∃ detail, Response.unreadable = .record 400 detail := by
  have shown : Response.canShow
      (.record [("detail", .text "There was an error parsing the body")]) = true := by
    decide +kernel
  exact ⟨_, Response.of_value_shown shown⟩

/-- A body that is no JSON is refused. -/
theorem no_json_refused (refusal : Json.Refusal) :
    (∃ detail, Response.notJson refusal = .record 422 detail) ∨
      refusal.reason.isLimit = true ∧ ∃ detail, Response.notJson refusal = .record 400 detail := by
  by_cases limit : refusal.reason.isLimit = true
  · obtain ⟨detail, unreadable⟩ := unreadable_refused
    exact .inr ⟨limit, detail, by rw [Response.notJson, if_pos limit, unreadable]⟩
  · have shown : Response.canShow (.record [("detail", .list [.record
        [("loc", .list [.text "body", .int refusal.position]), ("type", .text "json_invalid"),
          ("msg", .text "JSON decode error")]])]) = true := rfl
    exact .inl ⟨_, (if_neg limit).trans (Response.of_value_shown shown)⟩

end Http

end AdRules

import AdRules.Proofs.ToolAnswers

/-!
# Calls of tools

A request to call a tool names the tool and gives it arguments. Whatever it holds instead, it has an
answer: the tool answers, or the request is refused for its body, for the name or for the arguments.
The answer is broken where a list or a record stands for the name, where arguments that hold
something are no record, and where something that would be shown cannot be, a text that is not whole
or a number that is not finite.
-/

namespace AdRules

namespace Http

/-- A request to call a tool. -/
def toolCall (body : String) : Request := ⟨"POST", "/api/v1/assistant/call-tool", body⟩

/-- The place is the one of calls. -/
def Place.isToolCall : Place → Bool
  | .toolCall => true
  | _ => false

variable {σ : Type} {services : Services σ}

/-- The path of tool calls names the place of tool calls. -/
theorem tool_call_placed :
    ∃ target, Place.find Place.mostTrims (Target.ofText "/api/v1/assistant/call-tool") =
      some (.toolCall, target) := by
  have placed : (Place.find Place.mostTrims (Target.ofText "/api/v1/assistant/call-tool")).any
      (·.1.isToolCall) = true := by decide +kernel
  cases found : Place.find Place.mostTrims (Target.ofText "/api/v1/assistant/call-tool") with
  | none => simp [found] at placed
  | some named =>
    obtain ⟨place, target⟩ := named
    have isCall : place.isToolCall = true := by simpa [found] using placed
    cases place with
    | toolCall => exact ⟨target, rfl⟩
    | rules | rule _ | ruleSwitch _ | logs | execution | metrics | actions | latest
    | latestWithLogs | synchronisation | schedulerStatus | schedulerStart | schedulerStop
    | schedulerRun | tools | health => cases isCall

/-- What is asked of the place is answered; a failure there would break the answer. -/
theorem respond_tool_call (upcoming : Value) (body : String) (engine : Engine σ) :
    respond services upcoming (toolCall body) engine =
      match callTool services body engine with
      | .ok response after => .ok response after
      | .error _ after => .ok .broken after := by
  have clean : Target.fault? "/api/v1/assistant/call-tool" = none := by decide +kernel
  obtain ⟨target, placed⟩ := tool_call_placed
  have method : methodOf (toolCall body) = "POST" := by
    show String.ofList ("POST".toList.map Text.asciiUpper) = "POST"
    decide +kernel
  have asked : Place.toolCall.demand? "POST" = some .callTool := by simp [Place.demand?]
  have answered : answer services upcoming (toolCall body) engine =
      match callTool services body engine with
      | .ok response after => .ok response after
      | .error _ after => .ok .broken after := by
    unfold answer
    rw [method]
    simp only [toolCall, placed, asked, fulfil]
    cases ran : callTool services body engine <;> simp [ran]
  unfold respond
  rw [show (toolCall body).target = "/api/v1/assistant/call-tool" from rfl, clean, method]
  cases ran : callTool services body engine <;> simp [answered, ran]

/-! ## What a body asks for -/

/-- The tools have distinct names, all of them are members, and no name has a stray half. -/
instance : Vocabulary.Lawful Tool :=
  ⟨by intro tool; cases tool <;> decide, by intro tool; cases tool <;> decide⟩

/-- The body cannot be read, or it goes beyond what is read of JSON. -/
def Body.IsOver : Body → Prop
  | .unreadable => True
  | .notJson refusal => refusal.reason.isLimit = true
  | .absent | .value _ => False

/-- A body calls a tool with some arguments. Empty arguments of any shape are none. -/
structure Calls (payload : Fields) (tool : Tool) (arguments : Fields) : Prop where
  named : Fields.getD payload "tool" = Vocabulary.toValue tool
  given : Fields.getD payload "arguments" = .record arguments ∨
    (Fields.getD payload "arguments").isEmpty = true ∧ arguments = []

/-- The value is a list or a record, which cannot be looked up. -/
def isNested : Value → Bool
  | .list _ | .record _ => true
  | _ => false

/-- A body names something else than a tool. -/
structure CallsNone (payload : Fields) : Prop where
  filled : (Fields.getD payload "tool").isEmpty = false
  searchable : isNested (Fields.getD payload "tool") = false
  foreign : ∀ tool : Tool, Fields.getD payload "tool" ≠ Vocabulary.toValue tool

/-- The numbers of a result are finite and its texts whole once times are written out. -/
structure Showable (result : Value) : Prop where
  finite : result.isFinite = true
  whole : (result.dated Timestamp.isoText).isWhole = true

/-- Arguments are a record or empty, or they are something else. -/
theorem arguments_given (payload : Fields) :
    (∃ arguments, Fields.getD payload "arguments" = .record arguments ∨
      (Fields.getD payload "arguments").isEmpty = true ∧ arguments = []) ∨
    (Fields.getD payload "arguments").isEmpty = false ∧
      ∀ arguments, Fields.getD payload "arguments" ≠ .record arguments := by
  cases empty : (Fields.getD payload "arguments").isEmpty with
  | true => exact .inl ⟨[], .inr ⟨rfl, rfl⟩⟩
  | false =>
    by_cases noRecord : ∀ arguments, Fields.getD payload "arguments" ≠ .record arguments
    · exact .inr ⟨rfl, noRecord⟩
    · obtain ⟨arguments, given⟩ : ∃ arguments,
          Fields.getD payload "arguments" = .record arguments := by simpa using noRecord
      exact .inl ⟨arguments, .inl given⟩

/-- A body calls a tool, and this is what the tool answers. -/
structure Called (services : Services σ) (opened : Engine σ) (body : Body) (tool : Tool)
    (arguments : Fields) (result : Value) (after : Engine σ) : Prop where
  calls : ∃ payload, body = .value (.record payload) ∧ Calls payload tool arguments
  answers : ∃ action, tool.run services arguments = .valid action ∧
    action opened = .ok result after

/-- What breaks the answer to a call: something in the body that cannot be looked up, unpacked or
shown, or a result that cannot be shown. -/
inductive Breaks (services : Services σ) (opened : Engine σ) : Body → Prop where
  /-- The body is no record and cannot be shown. -/
  | shapeless (value : Value) (noRecord : ∀ payload, value ≠ .record payload)
      (hidden : Response.canShow value = false) : Breaks services opened (.value value)
  /-- The name is a list or a record that holds something. -/
  | nested (payload : Fields) (filled : (Fields.getD payload "tool").isEmpty = false)
      (nested : isNested (Fields.getD payload "tool") = true) :
      Breaks services opened (.value (.record payload))
  /-- The name is none of a tool and holds half of a surrogate pair. -/
  | unknown (payload : Fields) (none : CallsNone payload)
      (halved : Text.isWhole (Fields.getD payload "tool").plain = false) :
      Breaks services opened (.value (.record payload))
  /-- The arguments of a tool hold something and are no record. -/
  | unpacked (payload : Fields) (tool : Tool)
      (named : Fields.getD payload "tool" = Vocabulary.toValue tool)
      (filled : (Fields.getD payload "arguments").isEmpty = false)
      (noRecord : ∀ arguments, Fields.getD payload "arguments" ≠ .record arguments) :
      Breaks services opened (.value (.record payload))
  /-- The name of an argument holds half of a surrogate pair. -/
  | refused (payload : Fields) (tool : Tool) (arguments : Fields)
      (calls : Calls payload tool arguments) (name : String) (argument : Value)
      (given : (name, argument) ∈ arguments) (halved : Text.isWhole name = false) :
      Breaks services opened (.value (.record payload))
  /-- What the tool answers cannot be shown. -/
  | hidden (body : Body) (tool : Tool) (arguments : Fields) (result : Value) (after : Engine σ)
      (called : Called services opened body tool arguments result after)
      (hidden : ¬ Showable result) : Breaks services opened body

/-- How a call ends: with what a tool answers, with one of three refusals, or broken. -/
inductive Course (services : Services σ) (engine opened : Engine σ) (body : String) : Prop where
  | answered (tool : Tool) (arguments : Fields) (result : Value) (after : Engine σ)
      (called :
        Called services opened (Body.ofText services.depth body) tool arguments result after)
      (shown : Showable result)
  | unknown (payload : Fields) (read : Body.ofText services.depth body = .value (.record payload))
      (none : CallsNone payload) (whole : Text.isWhole (Fields.getD payload "tool").plain = true)
  | unsound (detail : Value)
      (refusal : callTool services body engine = .ok (.record 422 detail) opened)
  | beyond (detail : Value)
      (refusal : callTool services body engine = .ok (.record 400 detail) opened)
      (far : (Body.ofText services.depth body).IsOver)
  | broken (breaks : Breaks services opened (Body.ofText services.depth body))

/-- The record of an answered call can be shown exactly when the result can. -/
theorem can_show_answered (tool : Tool) (result : Value) (took : Int) :
    Response.canShow (callAnswered tool result took) = true ↔ Showable result := by
  have tools : Text.isWhole (Vocabulary.word tool) = true := Vocabulary.Lawful.whole tool
  have names : Text.isWhole "tool" = true ∧ Text.isWhole "result" = true ∧
      Text.isWhole "metadata" = true ∧ Text.isWhole "execution_time_ms" = true := by decide
  obtain ⟨name, answer, metadata, time⟩ := names
  have parts : Response.canShow (callAnswered tool result took) = true ↔
      result.isFinite = true ∧ (result.dated Timestamp.isoText).isWhole = true := by
    simp [Response.canShow, callAnswered, Vocabulary.toValue, Value.isFinite, Value.fieldsFinite,
      Value.isWhole, Value.fieldsWhole, Value.dated_finite, tools, name, answer, metadata, time]
  rw [parts]
  constructor
  · rintro ⟨finite, whole⟩
    exact ⟨finite, whole⟩
  · rintro ⟨finite, whole⟩
    exact ⟨finite, whole⟩

/-! ## One body after the other -/

section Opened

variable {engine opened : Engine σ} {now : Timestamp} {body : String} {payload : Fields}
  (ticks : Engine.onOutside services.clock engine = .ok now opened)

include ticks

/-- A record is handed on as it was read. -/
theorem with_record_read (read : Body.ofText services.depth body = .value (.record payload))
    (next : Fields → Act (Engine σ) Response) :
    withBody services body bodyMissing checkRecord next engine = next payload opened := by
  simp [withBody, ticks, read, withChecked, checkRecord, Checked.under]

/-- A call that names no tool is refused with a detail that says so. -/
theorem unnamed_refused (read : Body.ofText services.depth body = .value (.record payload))
    (empty : (Fields.getD payload "tool").isEmpty = true) :
    ∃ detail, callTool services body engine = .ok (.record 422 detail) opened := by
  have shown : Response.canShow (.record [("detail",
      .record [("error", .text "Missing 'tool' in request")])]) = true := by decide +kernel
  have refusal : toolRefused 422 "Missing 'tool' in request" = .record 422 _ :=
    Response.of_value_shown shown
  rw [callTool, with_record_read ticks read]
  simp only [empty, if_true, refusal, Act.pure_apply]
  exact ⟨_, rfl⟩

/-- A call whose tool is a list or a record breaks the answer, because such a value cannot be looked
up. -/
theorem nested_breaks (read : Body.ofText services.depth body = .value (.record payload))
    (filled : (Fields.getD payload "tool").isEmpty = false)
    (nested : isNested (Fields.getD payload "tool") = true) :
    callTool services body engine = .ok .broken opened := by
  rw [callTool, with_record_read ticks read]
  simp only [filled, Bool.false_eq_true, if_false]
  cases named : Fields.getD payload "tool" with
  | list _ | record _ => rfl
  | null | bool _ | int _ | float _ | text _ | time _ => simp [named, isNested] at nested

/-- What is said of a name that is none of a tool. -/
theorem unknown_refused (read : Body.ofText services.depth body = .value (.record payload))
    (none : CallsNone payload) :
    callTool services body engine =
      .ok (toolRefused 404 ("Unknown tool: " ++ (Fields.getD payload "tool").plain)) opened := by
  have unlisted : (Vocabulary.ofValue? (Fields.getD payload "tool") : Option Tool) = .none := by
    rw [Option.eq_none_iff_forall_ne_some]
    exact fun tool listed => none.foreign tool ((Vocabulary.of_value_iff _ tool).mp listed)
  rw [callTool, with_record_read ticks read]
  simp only [none.filled, Bool.false_eq_true, if_false]
  cases named : Fields.getD payload "tool" with
  | list _ | record _ =>
    have searchable := none.searchable
    simp [named, isNested] at searchable
  | null | bool _ | int _ | float _ | text _ | time _ =>
    rw [named] at unlisted
    simp [unlisted]

/-- A name of a tool is looked at together with the arguments. -/
theorem named_read {tool : Tool} (read : Body.ofText services.depth body = .value (.record payload))
    (named : Fields.getD payload "tool" = Vocabulary.toValue tool) :
    callTool services body engine =
      match Fields.getD payload "arguments" with
      | .record arguments => runTool services tool arguments opened
      | other => if other.isEmpty then runTool services tool [] opened else .ok .broken opened := by
  have filled : (Vocabulary.toValue tool).isEmpty = false := by cases tool <;> decide
  have listed : (Vocabulary.ofValue? (Vocabulary.toValue tool) : Option Tool) = some tool :=
    (Vocabulary.of_value_iff _ tool).mpr rfl
  rw [callTool, with_record_read ticks read]
  simp only [named, filled, Bool.false_eq_true, if_false]
  have content : Vocabulary.toValue tool = .text (Vocabulary.word tool) := rfl
  rw [content] at listed ⊢
  simp only [listed]
  cases Fields.getD payload "arguments" with
  | record arguments => rfl
  | null | bool _ | int _ | float _ | text _ | time _ | list _ => dsimp only; split <;> rfl

/-- A call whose arguments are no record breaks the answer, unless they are empty: then they count
as none. -/
theorem unpacked_breaks {tool : Tool}
    (read : Body.ofText services.depth body = .value (.record payload))
    (named : Fields.getD payload "tool" = Vocabulary.toValue tool)
    (filled : (Fields.getD payload "arguments").isEmpty = false)
    (noRecord : ∀ arguments, Fields.getD payload "arguments" ≠ .record arguments) :
    callTool services body engine = .ok .broken opened := by
  rw [named_read ticks read named]
  split
  · next arguments given => exact absurd given (noRecord arguments)
  · simp [filled]

/-- A call that names a tool and hands it a record runs the tool with the record. -/
theorem call_run {tool : Tool} {arguments : Fields}
    (read : Body.ofText services.depth body = .value (.record payload))
    (calls : Calls payload tool arguments) :
    callTool services body engine = runTool services tool arguments opened := by
  rw [named_read ticks read calls.named]
  rcases calls.given with given | ⟨empty, rfl⟩
  · rw [given]
  · split
    · next arguments given =>
      rw [given] at empty
      rw [List.isEmpty_iff.mp empty]
    · rw [if_pos empty]

/-- A call that is answered is answered with what the tool answers, if that can be shown. -/
theorem called_answered {tool : Tool} {arguments : Fields} {result : Value} {after : Engine σ}
    (called :
      Called services opened (Body.ofText services.depth body) tool arguments result after) :
    callTool services body engine = .ok (.ofValue 200
      (callAnswered tool result (services.elapsed opened.outside after.outside))) after := by
  obtain ⟨payload, read, calls⟩ := called.calls
  obtain ⟨action, valid, ran⟩ := called.answers
  rw [call_run ticks read calls]
  simp [runTool, valid, Checked.under, ran]

/-- Refused arguments are reported if the names of all of them are whole. -/
theorem arguments_refused {tool : Tool} {arguments : Fields} {issues : List Issue}
    (read : Body.ofText services.depth body = .value (.record payload))
    (calls : Calls payload tool arguments)
    (invalid : tool.run services arguments = .invalid issues) :
    callTool services body engine = .ok (.refused 422 (.list
      ((issues.map (Issue.under (.field "arguments"))).map Issue.toValue))) opened := by
  rw [call_run ticks read calls]
  simp [runTool, invalid, Checked.under]

/-- A body that is no record is refused and shown. -/
theorem shapeless_refused {value : Value} (read : Body.ofText services.depth body = .value value)
    (noRecord : ∀ payload, value ≠ .record payload) :
    callTool services body engine =
      .ok (.unsound [⟨[.field "body"], .recordType, value⟩]) opened := by
  rw [callTool, withBody]
  cases value with
  | record payload => exact absurd rfl (noRecord payload)
  | null | bool _ | int _ | float _ | text _ | time _ | list _ =>
    simp [ticks, read, withChecked, checkRecord, Checked.fault, Checked.under, Issue.under]

end Opened

/-! ## Every call has an answer -/

/-- What is promised of the answer to a call: for each status exactly when it is given. -/
structure Answered (services : Services σ) (opened : Engine σ) (body : Body) (response : Response)
    (after : Engine σ) : Prop where
  /-- A tool has answered exactly where one is called with arguments that it takes, and where its
  result can be shown. -/
  answered : response.status = 200 ↔ ∃ tool arguments result,
    Called services opened body tool arguments result after ∧ Showable result
  /-- Nothing was found exactly where the name is none of a tool and can be shown. -/
  unknown : response.status = 404 ↔ ∃ payload, body = .value (.record payload) ∧
    CallsNone payload ∧ Text.isWhole (Fields.getD payload "tool").plain = true
  /-- The answer is broken exactly where something breaks it. -/
  broken : response = .broken ↔ Breaks services opened body
  /-- Every other call is refused as unsound, or because its body goes too far. -/
  refused : response.status = 200 ∨ response.status = 404 ∨ response.status = 422 ∨
    response.status = 400 ∧ body.IsOver ∨ response = .broken
  /-- The result that can be shown is shown, with the time that the tool took. -/
  shown : ∀ tool arguments result, Called services opened body tool arguments result after →
    Showable result → response = .record 200
      (callAnswered tool result (services.elapsed opened.outside after.outside))

/-- A name that is none of a tool is refused if it can be shown. -/
theorem unknown_course {engine opened : Engine σ} {body : String} {payload : Fields}
    (read : Body.ofText services.depth body = .value (.record payload))
    (none : CallsNone payload) : Course services engine opened body := by
  cases whole : Text.isWhole (Fields.getD payload "tool").plain with
  | true => exact .unknown payload read none whole
  | false => exact .broken (read ▸ .unknown payload none whole)

section Course

variable {engine opened : Engine σ} {now : Timestamp} {body : String}
  (ticks : Engine.onOutside services.clock engine = .ok now opened)

include ticks

/-- A result that can be shown is shown. -/
theorem shown_answered {tool : Tool} {arguments : Fields} {result : Value} {after : Engine σ}
    (called : Called services opened (Body.ofText services.depth body) tool arguments result after)
    (shown : Showable result) :
    callTool services body engine = .ok (.record 200
      (callAnswered tool result (services.elapsed opened.outside after.outside))) after := by
  rw [called_answered ticks called,
    Response.of_value_shown ((can_show_answered tool result _).mpr shown)]

/-- A name that can be shown and is none of a tool is refused. -/
theorem unknown_answered {payload : Fields}
    (read : Body.ofText services.depth body = .value (.record payload))
    (none : CallsNone payload) (whole : Text.isWhole (Fields.getD payload "tool").plain = true) :
    ∃ detail, callTool services body engine = .ok (.record 404 detail) opened := by
  have refusal : toolRefused 404 ("Unknown tool: " ++ (Fields.getD payload "tool").plain) =
      .record 404 _ := Response.of_value_shown ((unknown_shown_iff _).mpr whole)
  exact ⟨_, refusal ▸ unknown_refused ticks read none⟩

/-- What breaks the answer to a call does. -/
theorem breaks_broken (breaks : Breaks services opened (Body.ofText services.depth body)) :
    ∃ after, callTool services body engine = .ok .broken after := by
  generalize read : Body.ofText services.depth body = content at breaks
  cases breaks with
  | shapeless value noRecord hidden =>
    refine ⟨opened, ?_⟩
    rw [shapeless_refused ticks read noRecord]
    simp [Response.unsound, hidden]
  | nested payload filled nested => exact ⟨opened, nested_breaks ticks read filled nested⟩
  | unknown payload none halved =>
    have hidden := Bool.eq_false_iff.mpr
      (mt (unknown_shown_iff _).mp (Bool.eq_false_iff.mp halved))
    refine ⟨opened, ?_⟩
    rw [unknown_refused ticks read none, toolRefused, Response.refused,
      Response.of_value_hidden hidden]
  | unpacked payload tool named filled noRecord =>
    exact ⟨opened, unpacked_breaks ticks read named filled noRecord⟩
  | refused payload tool arguments calls name argument given halved =>
    cases ran : tool.run services arguments with
    | valid action =>
      obtain ⟨issue, found, _⟩ := tool.halved_refused services given halved
      rw [ran] at found
      cases found
    | invalid issues =>
      have hidden := Bool.eq_false_iff.mpr fun shown =>
        Bool.eq_false_iff.mp halved ((refusal_shown_iff services ran).mp shown _ given)
      refine ⟨opened, ?_⟩
      rw [arguments_refused ticks read calls ran, Response.refused, Response.of_value_hidden hidden]
  | hidden content tool arguments result after called hidden =>
    subst read
    refine ⟨after, ?_⟩
    rw [called_answered ticks called,
      Response.of_value_hidden (Bool.eq_false_iff.mpr (mt (can_show_answered _ _ _).mp hidden))]

/-- A body that is missing or holds no JSON is refused. -/
theorem unread_course (unread : ∀ value, Body.ofText services.depth body ≠ .value value) :
    Course services engine opened body := by
  cases read : Body.ofText services.depth body with
  | absent =>
    obtain ⟨detail, missing⟩ := unsound_body .missing .null rfl (by decide)
    refine .unsound detail ?_
    simp [callTool, withBody, ticks, read, withChecked, bodyMissing, Checked.fault, Checked.under,
      Issue.under, missing]
  | unreadable =>
    obtain ⟨detail, refusal⟩ := unreadable_refused
    refine .beyond detail ?_ (by rw [read]; trivial)
    simp [callTool, withBody, ticks, read, refusal]
  | notJson refusal =>
    have ended : callTool services body engine = .ok (.notJson refusal) opened := by
      simp [callTool, withBody, ticks, read]
    rcases no_json_refused refusal with ⟨detail, refused⟩ | ⟨limit, detail, refused⟩
    · exact .unsound detail (refused ▸ ended)
    · exact .beyond detail (refused ▸ ended) (by rw [read]; exact limit)
  | value value => exact absurd read (unread value)

/-- A body that is no record is refused if it can be shown. -/
theorem shapeless_course {value : Value} (read : Body.ofText services.depth body = .value value)
    (noRecord : ∀ payload, value ≠ .record payload) : Course services engine opened body := by
  cases shown : Response.canShow value with
  | true =>
    obtain ⟨detail, refusal⟩ := unsound_body .recordType value shown (by decide)
    exact .unsound detail (refusal ▸ shapeless_refused ticks read noRecord)
  | false => exact .broken (read ▸ .shapeless value noRecord shown)

variable {payload : Fields}

/-- A tool answers if it takes the arguments, which are refused otherwise. -/
theorem calls_course {tool : Tool} {arguments : Fields}
    (responds : ∀ action : Act (Engine σ) Value, tool.run services arguments = .valid action →
      ∃ result after, action opened = .ok result after)
    (read : Body.ofText services.depth body = .value (.record payload))
    (calls : Calls payload tool arguments) :
    Course services engine opened body := by
  cases ran : tool.run services arguments with
  | valid action =>
    obtain ⟨result, after, answer⟩ := responds action ran
    have called :
        Called services opened (Body.ofText services.depth body) tool arguments result after :=
      ⟨⟨payload, read, calls⟩, action, ran, answer⟩
    by_cases shown : Showable result
    · exact .answered tool arguments result after called shown
    · exact .broken (.hidden _ tool arguments result after called shown)
  | invalid issues =>
    by_cases whole : ∀ field ∈ arguments, Text.isWhole field.1 = true
    · have refusal : Response.refused 422 (.list
          ((issues.map (Issue.under (.field "arguments"))).map Issue.toValue)) = .record 422 _ :=
        Response.of_value_shown ((refusal_shown_iff services ran).mpr whole)
      exact .unsound _ (refusal ▸ arguments_refused ticks read calls ran)
    · obtain ⟨name, argument, given, halved⟩ : ∃ name argument, (name, argument) ∈ arguments ∧
          Text.isWhole name = false := by simpa using whole
      exact .broken (read ▸ .refused payload tool arguments calls name argument given halved)

/-- Every call is answered by a tool, refused, or has its answer broken. It is assumed here that the
tools themselves answer. -/
theorem call_course
    (responds : ∀ (tool : Tool) (arguments : Fields) (action : Act (Engine σ) Value),
      tool.run services arguments = .valid action →
        ∃ result after, action opened = .ok result after) :
    Course services engine opened body := by
  by_cases unread : ∀ value, Body.ofText services.depth body ≠ .value value
  · exact unread_course ticks unread
  obtain ⟨value, read⟩ : ∃ value, Body.ofText services.depth body = .value value := by
    simpa using unread
  by_cases noRecord : ∀ payload, value ≠ .record payload
  · exact shapeless_course ticks read noRecord
  obtain ⟨payload, rfl⟩ : ∃ payload, value = .record payload := by simpa using noRecord
  cases filled : (Fields.getD payload "tool").isEmpty with
  | true =>
    obtain ⟨detail, refused⟩ := unnamed_refused ticks read filled
    exact .unsound detail refused
  | false =>
    cases nested : isNested (Fields.getD payload "tool") with
    | true => exact .broken (read ▸ .nested payload filled nested)
    | false =>
      by_cases foreign : ∀ tool : Tool, Fields.getD payload "tool" ≠ Vocabulary.toValue tool
      · exact unknown_course read ⟨filled, nested, foreign⟩
      · obtain ⟨tool, named⟩ : ∃ tool : Tool,
            Fields.getD payload "tool" = Vocabulary.toValue tool := by simpa using foreign
        rcases arguments_given payload with ⟨arguments, given⟩ | ⟨filled, noRecord⟩
        · exact calls_course ticks (responds tool arguments) read ⟨named, given⟩
        · exact .broken (read ▸ .unpacked payload tool named filled noRecord)

section Ended

variable {response : Response} {after : Engine σ}
  (ran : callTool services body engine = .ok response after)

include ran

/-- A result that can be shown is the answer, with the time that the call took as the timer counts
it. -/
theorem shown_of_called {tool : Tool} {arguments : Fields} {result : Value} {ended : Engine σ}
    (called : Called services opened (Body.ofText services.depth body) tool arguments result ended)
    (shown : Showable result) : response = .record 200
      (callAnswered tool result (services.elapsed opened.outside ended.outside)) := by
  rw [shown_answered ticks called shown] at ran
  cases ran
  rfl

/-- A call of a tool that does not exist is answered as not found, where its name can be shown. -/
theorem status_of_unknown (read : Body.ofText services.depth body = .value (.record payload))
    (none : CallsNone payload) (whole : Text.isWhole (Fields.getD payload "tool").plain = true) :
    response.status = 404 := by
  obtain ⟨detail, refused⟩ := unknown_answered ticks read none whole
  rw [refused] at ran
  cases ran
  rfl

/-- An answer keeps what is promised if it is of each kind only where it should be: each kind is
given wherever it should be. -/
theorem answered_of_kinds
    (answered : response.status = 200 → ∃ tool arguments result,
      Called services opened (Body.ofText services.depth body) tool arguments result after ∧
        Showable result)
    (unknown : response.status = 404 → ∃ payload,
      Body.ofText services.depth body = .value (.record payload) ∧
      CallsNone payload ∧ Text.isWhole (Fields.getD payload "tool").plain = true)
    (broken : response = .broken → Breaks services opened (Body.ofText services.depth body))
    (refused : response.status = 200 ∨ response.status = 404 ∨ response.status = 422 ∨
      response.status = 400 ∧ (Body.ofText services.depth body).IsOver ∨ response = .broken) :
    Answered services opened (Body.ofText services.depth body) response after := by
  refine ⟨⟨answered, ?_⟩, ⟨unknown, ?_⟩, ⟨broken, ?_⟩, refused, ?_⟩
  · rintro ⟨tool, arguments, result, called, shown⟩
    rw [shown_of_called ticks ran called shown]
    rfl
  · rintro ⟨payload, read, none, whole⟩
    exact status_of_unknown ticks ran read none whole
  · intro breaks
    obtain ⟨ended, breaking⟩ := breaks_broken ticks breaks
    rw [breaking] at ran
    cases ran
    rfl
  · intro tool arguments result called shown
    exact shown_of_called ticks ran called shown

end Ended

/-- Where the tools answer, every call is answered as promised. The answer depends on the body and
on what the tool found, and on nothing else. -/
theorem call_answered
    (responds : ∀ (tool : Tool) (arguments : Fields) (action : Act (Engine σ) Value),
      tool.run services arguments = .valid action →
        ∃ result after, action opened = .ok result after) :
    ∃ response after, callTool services body engine = .ok response after ∧
      Answered services opened (Body.ofText services.depth body) response after := by
  rcases call_course ticks responds with
    ⟨tool, arguments, result, after, called, shown⟩ |
    ⟨payload, read, none, whole⟩ | ⟨detail, refusal⟩ | ⟨detail, refusal, far⟩ | breaks
  · have ran := shown_answered ticks called shown
    refine ⟨_, _, ran, answered_of_kinds ticks ran ?_ ?_ ?_ (.inl rfl)⟩
    · exact fun _ => ⟨tool, arguments, result, called, shown⟩
    · simp [Response.status]
    · simp [Response.broken]
  · obtain ⟨detail, refusal⟩ := unknown_answered ticks read none whole
    refine ⟨_, _, refusal, answered_of_kinds ticks refusal ?_ ?_ ?_ (.inr (.inl rfl))⟩
    · simp [Response.status]
    · exact fun _ => ⟨payload, read, none, whole⟩
    · simp [Response.broken]
  · refine ⟨_, _, refusal, answered_of_kinds ticks refusal ?_ ?_ ?_ (.inr (.inr (.inl rfl)))⟩
    · simp [Response.status]
    · simp [Response.status]
    · simp [Response.broken]
  · refine ⟨_, _, refusal, answered_of_kinds ticks refusal ?_ ?_ ?_
      (.inr (.inr (.inr (.inl ⟨rfl, far⟩))))⟩
    · simp [Response.status]
    · simp [Response.status]
    · simp [Response.broken]
  · obtain ⟨after, ran⟩ := breaks_broken ticks breaks
    refine ⟨_, _, ran, answered_of_kinds ticks ran ?_ ?_ (fun _ => breaks)
      (.inr (.inr (.inr (.inr rfl))))⟩
    · simp [Response.broken, Response.status]
    · simp [Response.broken, Response.status]

end Course

end Http

namespace Application

/-- The process after some operations. -/
def reached [IdSupply] (application : Application) (operations : List Operation) :
    Engine (Memory × Nat) :=
  operations.foldl application.after (Engine.start (Memory.start, 0))

/-- The process once it has looked at its clock. -/
def opened (application : Application) (engine : Engine (Memory × Nat)) : Engine (Memory × Nat) :=
  { engine with outside := left engine.outside (application.present engine.outside) }

/-- Looking at the clock never fails. -/
theorem clock_ticks [IdSupply] (application : Application) (engine : Engine (Memory × Nat)) :
    Engine.onOutside application.services.clock engine =
      .ok (application.present engine.outside).now (application.opened engine) := rfl

/-- In every state that an application reaches, every request to call a tool has an answer. The tool
answers exactly where the name is one of a tool and its model takes the arguments, empty ones of any
shape being none, and where the result can be shown; other requests are refused, except for those
that break the answer. What a tool answers reports an error exactly if something kept the tool from
its answer, and its numbers are finite unless the metrics of a manual run were not. -/
theorem tool_calls_answered [IdSupply] (application : Application) (operations : List Operation)
    (upcoming : Value) (body : String) :
    let opened := application.opened (application.reached operations)
    ∃ response after,
      Http.respond application.services upcoming (Http.toolCall body)
          (application.reached operations) = .ok response after ∧
        Http.Answered application.services opened (Http.Body.ofText application.depth body)
          response after ∧
        ∀ tool arguments result,
          Http.Called application.services opened (Http.Body.ofText application.depth body)
            tool arguments result after →
            Reports result (application.Troubled opened tool) ∧
              (result.isFinite = true ∨ tool = .actionLogs ∧
                ∃ operation ∈ operations, ∃ metrics, operation.HandsOver application.depth metrics ∧
                  ¬ metrics.Finite) := by
  intro opened
  have vetted := application.run_explained operations
  have still : opened.outside.1.Vetted (application.Explained operations) :=
    ⟨vetted.numbered, vetted.sound, vetted.readings, vetted.created, vetted.logged, vetted.fineLogs⟩
  have responds : ∀ (tool : Http.Tool) (arguments : Fields)
      (action : Act (Engine (Memory × Nat)) Value),
      tool.run application.services arguments = .valid action →
        ∃ result after, action opened = .ok result after := by
    intro tool arguments action valid
    obtain ⟨result, after, ran, _⟩ := tool_answers still valid
    exact ⟨result, after, ran⟩
  obtain ⟨response, after, ran, answered⟩ : ∃ response after,
      Http.callTool application.services body (application.reached operations) =
          .ok response after ∧
        Http.Answered application.services opened (Http.Body.ofText application.depth body)
          response after :=
    Http.call_answered (application.clock_ticks _) responds
  refine ⟨response, after, ?_, answered, ?_⟩
  · rw [Http.respond_tool_call, ran]
  · rintro tool arguments result ⟨_, action, valid, answer⟩
    obtain ⟨other, ended, again, reports, finite⟩ := tool_answers still valid
    rw [answer] at again
    cases again
    refine ⟨reports, finite.imp_right ?_⟩
    rintro ⟨isLogs, log, stored, boundless⟩
    obtain ⟨operation, asked, handed⟩ :=
      ((still.fineLogs log stored).2).resolve_left boundless
    exact ⟨isLogs, operation, asked, log.metrics, handed, boundless⟩

/-- A tool that is named by a list breaks the answer, also where nothing was done before. A name
that is a text and unknown is answered as such. -/
theorem listed_name_breaks :
    (((Http.respond offline.services .null (Http.toolCall "\x7b\"tool\": [\"x\"]\x7d")).result
      (offline.reached [])).map Http.Response.status).toOption = some 500 := by
  decide +kernel

end Application

end AdRules

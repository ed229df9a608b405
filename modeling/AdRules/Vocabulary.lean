import AdRules.Validation.Scalar

/-!
# Closed vocabularies

Metrics, comparisons, actions and states are each named by a fixed list of words. Where a stored
value may hold something else, `Term` keeps what was stored.
-/

namespace AdRules

/-- A type whose members are all named by a word. -/
class Vocabulary (α : Type) where
  /-- The members in their order of presentation. -/
  members : List α
  /-- The word of a member. -/
  word : α → String

namespace Vocabulary

variable {α : Type} [Vocabulary α]

/-- The member named by a word, letter for letter. The case of the letters counts. -/
def ofWord? (text : String) : Option α := (members (α := α)).find? fun member => word member == text

/-- The words of all members. -/
def words (α : Type) [Vocabulary α] : List String := (members (α := α)).map word

/-- The member named by a value. -/
def ofValue? : Value → Option α
  | .text content => ofWord? content
  | _ => none

/-- A member as a value. -/
def toValue (member : α) : Value := .text (word member)

end Vocabulary

/-- A member of a vocabulary, from its word. -/
def Check.choice {α : Type} [Vocabulary α] (input : Value) : Checked α :=
  let chosen := match Vocabulary.ofValue? input with
    | some member => .valid member
    | none => Checked.fault (.choice (Vocabulary.words α)) input
  match input with
  | .text content => Check.whole content chosen
  | _ => chosen

/-- What stands where a member of a vocabulary is expected. -/
inductive Term (α : Type) where
  | known (member : α)
  | unrecognised (stored : Value)

namespace Term

variable {α : Type} [Vocabulary α]

/-- The member that a value names, or the value itself. -/
def read (stored : Value) : Term α :=
  match Vocabulary.ofValue? stored with
  | some member => .known member
  | none => .unrecognised stored

/-- The value that was read. -/
def toValue : Term α → Value
  | .known member => Vocabulary.toValue member
  | .unrecognised stored => stored

/-- Any text is accepted as a term; other values fail as a word and as a text. -/
def check (label : String) : Value → Checked (Term α)
  | .text content => .valid (read (.text content))
  | input =>
    .invalid
      [⟨[.field label], .choice (Vocabulary.words α), input⟩, ⟨[.field "str"], .textType, input⟩]

end Term

/-- What a check may depend on besides its input: the moment, and whether the input comes from JSON.
    -/
structure Setting where
  /-- The moment that fills in for a missing time of synchronisation or triggering. -/
  now : Timestamp
  /-- The input is the body of a request. -/
  isBody : Bool

/-- A record whose fields are checked; anything else is no instance of the model. -/
def Check.model {α : Type} (setting : Setting) (name : String) (check : Fields → Checked α) :
    Value → Checked α
  | .record fields => check fields
  | input => Checked.fault (if setting.isBody then .attributesType else .modelType name) input

end AdRules

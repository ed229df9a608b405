import AdRules.Validation.Issue

/-!
# Collecting issues

`Checked α` is a value of `α` or the issues that prevent it. Unlike an exception it does not stop at
the first issue: independent parts are all checked and their issues are joined in the order of the
parts.

So does the validation library that the program relies on, of major version 2. Assumed of it is that
the fields of a model are checked in the order in which they are declared, that a default is not
checked, and that a field with issues does not keep others from being checked. Fields that no model
declares are passed over, or complained of after all others where a model forbids them.
-/

namespace AdRules

/-- A checked value, or the issues found. All issues of a value are found at once, not just the
    first one. -/
inductive Checked (α : Type) where
  | valid (value : α)
  | invalid (issues : List Issue)

namespace Checked

variable {α β : Type}

/-- Applies a function to a valid value. -/
def map (f : α → β) : Checked α → Checked β
  | .valid value => .valid (f value)
  | .invalid issues => .invalid issues

/-- A function and its argument checked side by side, so that the issues of both are found. -/
def both (f : Checked (α → β)) (x : Checked α) : Checked β :=
  match f, x with
  | .valid f, .valid x => .valid (f x)
  | .valid _, .invalid issues => .invalid issues
  | .invalid issues, .valid _ => .invalid issues
  | .invalid first, .invalid second => .invalid (first ++ second)

/-- Independent checks are joined: the issues of both sides are kept, those of the left side first.
    -/
instance : Applicative Checked where
  pure := .valid
  seq f x := both f (x ())
  map := map

/-- A further check of a value that passed the first one. -/
def andThen (x : Checked α) (next : α → Checked β) : Checked β :=
  match x with
  | .valid value => next value
  | .invalid issues => .invalid issues

/-- The issues of a part as issues of the whole. -/
def under (step : Step) : Checked α → Checked α
  | .valid value => .valid value
  | .invalid issues => .invalid (issues.map (Issue.under step))

/-- The checked value, if any. -/
def value? : Checked α → Option α
  | .valid value => some value
  | .invalid _ => none

/-- A single issue about a value. -/
def fault (complaint : Complaint) (input : Value) : Checked α := .invalid [⟨[], complaint, input⟩]

/-- All items checked, the issues of each under its position. -/
def itemsFrom (check : Value → Checked α) : Nat → List Value → Checked (List α)
  | _, [] => .valid []
  | position, item :: rest =>
    both (map List.cons ((check item).under (.index position)))
      (itemsFrom check (position + 1) rest)

/-- A list whose items are all valid. Each issue says at which position it was found. -/
def items (check : Value → Checked α) : Value → Checked (List α)
  | .list values => itemsFrom check 0 values
  | input => fault .listType input

/-- A list of valid items that is not empty. -/
def someItems (check : Value → Checked α) (input : Value) : Checked (List α) :=
  (items check input).andThen fun values =>
    if values.isEmpty then fault .listTooShort input else .valid values

/-- Null, or a valid value. -/
def nullable (check : Value → Checked α) : Value → Checked (Option α)
  | .null => .valid none
  | input => map some (check input)

/-- A field that must be present, be it with null. What is missing is an issue of its own. -/
def required (fields : Fields) (name : String) (check : Value → Checked α) : Checked α :=
  match fields.get? name with
  | some input => (check input).under (.field name)
  | none => .invalid [⟨[.field name], .missing, .record fields⟩]

/-- A field that takes a default when it is absent; the default is not checked. -/
def optional (fields : Fields) (name : String) (default : α) (check : Value → Checked α) :
    Checked α :=
  match fields.get? name with
  | some input => (check input).under (.field name)
  | none => .valid default

/-- Refuses fields whose names are not in a list, in the order in which they stand. -/
def onlyFields (names : List String) (fields : Fields) : Checked Unit :=
  match fields.filter fun field => !names.contains field.1 with
  | [] => .valid ()
  | extra => .invalid (extra.map fun field => ⟨[.field field.1], .unexpected, field.2⟩)

end Checked

end AdRules

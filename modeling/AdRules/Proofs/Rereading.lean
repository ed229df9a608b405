import AdRules.Proofs.CheckedTimes
import AdRules.Proofs.Rechecks
import AdRules.Value.Dated

/-!
# Reading again

What has passed a check is shown as a value, whose times are written out. A check reads again what
another one has passed when it passes each such value as what it was shown for. Checks of single
values, of lists and of the fields of a record do so as soon as the checks of their parts do.
-/

namespace AdRules

/-! ## Times in a value -/

namespace Value

mutual

/-- The times in a value. -/
def times : Value → List Timestamp
  | .time moment => [moment]
  | .list items => itemsTimes items
  | .record fields => fieldsTimes fields
  | _ => []

/-- The times in items. -/
def itemsTimes : List Value → List Timestamp
  | [] => []
  | item :: rest => times item ++ itemsTimes rest

/-- The times in fields. -/
def fieldsTimes : List (String × Value) → List Timestamp
  | [] => []
  | (_, value) :: rest => times value ++ fieldsTimes rest

end

/-- Every time in a value can be written. -/
def Writable (value : Value) : Prop := ∀ time ∈ value.times, time.Writable

/-- The value with its times written out, as a record is sent. Texts that look like times stay
texts. -/
def written (value : Value) : Value := value.dated Timestamp.recordText

/-- Items of a list that can be written can be written, since the times in them are times of the
list. -/
theorem items_writable {items : List Value} (writable : (Value.list items).Writable) :
    ∀ item ∈ items, item.Writable := by
  rw [Writable, times] at writable
  induction items with
  | nil => simp
  | cons first rest inductionHypothesis =>
    rw [itemsTimes, List.forall_mem_append] at writable
    rw [List.forall_mem_cons]
    exact ⟨writable.1, inductionHypothesis writable.2⟩

/-- Fields of a record that can be written can be written, since the times in them are times of the
record. -/
theorem field_writable {fields : Fields} (writable : (Value.record fields).Writable)
    {name : String} {value : Value} (given : fields.get? name = some value) : value.Writable := by
  obtain ⟨field, found, rfl⟩ := Option.map_eq_some_iff.mp given
  have member := List.mem_of_find?_eq_some found
  clear given found
  rw [Writable, times] at writable
  induction fields with
  | nil => cases member
  | cons first rest inductionHypothesis =>
    rw [fieldsTimes, List.forall_mem_append] at writable
    rcases List.mem_cons.mp member with rfl | later
    · exact writable.1
    · exact inductionHypothesis writable.2 later

/-- A time that passes the check can be written. -/
theorem Writable.checked {input : Value} (writable : input.Writable) {time : Timestamp}
    (valid : Check.time input = .valid time) : time.Writable := by
  refine Timestamp.checked_writable ?_ valid
  rintro given rfl
  exact writable given (List.mem_singleton_self given)

/-- Writing the times in a list is writing those in every item. -/
theorem dated_items_eq (write : Timestamp → String) (items : List Value) :
    datedItems write items = items.map (dated write) := by
  induction items with
  | nil => rfl
  | cons item rest inductionHypothesis => rw [datedItems, inductionHypothesis, List.map_cons]

/-- Writing the times in a record is writing those in every field. -/
theorem dated_fields_eq (write : Timestamp → String) (fields : Fields) :
    datedFields write fields = Fields.inForm (dated write) fields := by
  induction fields with
  | nil => rfl
  | cons field rest inductionHypothesis =>
    rw [datedFields, inductionHypothesis]
    rfl

mutual

/-- No time is left in a value that is written out. -/
theorem dated_times (write : Timestamp → String) : ∀ value : Value, (value.dated write).times = []
  | .list items => dated_items_times write items
  | .record fields => dated_fields_times write fields
  | .time _ | .null | .bool _ | .int _ | .float _ | .text _ => rfl

/-- No times are left in a list once they have been written. By induction on the items. -/
theorem dated_items_times (write : Timestamp → String) :
    ∀ items : List Value, itemsTimes (datedItems write items) = []
  | [] => rfl
  | item :: rest => by
    rw [datedItems, itemsTimes, dated_times write item, dated_items_times write rest,
      List.nil_append]

/-- No times are left in a record once they have been written. By induction on the fields. -/
theorem dated_fields_times (write : Timestamp → String) :
    ∀ fields : Fields, fieldsTimes (datedFields write fields) = []
  | [] => rfl
  | (_, value) :: rest => by
    rw [datedFields, fieldsTimes, dated_times write value, dated_fields_times write rest,
      List.nil_append]

end

end Value

/-- Written out, a value shows what it is, and times that can be written are read back. -/
theorem legible_written : Legible Timestamp.Writable Value.written where
  null := rfl
  bool _ := rfl
  int _ := rfl
  float _ := rfl
  text _ := rfl
  time _ writable := writable.check
  list items := congrArg Value.list (Value.dated_items_eq _ items)
  record fields := congrArg Value.record (Value.dated_fields_eq _ fields)

/-! ## Checks that read again -/

/-- What passes the first check is shown as a value that, written out, passes the second as the
same. -/
def Rereads {α : Type} (first second : Value → Checked α) (shown : α → Value) : Prop :=
  ∀ ⦃input : Value⦄ ⦃result : α⦄, input.Writable → first input = .valid result →
    second (shown result).written = .valid result

namespace Rereads

/-- A text is read back as itself; it is not taken for a time. -/
theorem text : Rereads Check.text Check.text .text :=
  fun _ result _ _ => legible_written.plain result

/-- A flag is shown as true or false, whatever spelling it was given in. -/
theorem bool : Rereads Check.bool Check.bool .bool :=
  fun _ result _ _ => legible_written.flag result

/-- An integer is shown as a number, exactly. -/
theorem int : Rereads Check.int Check.int .int := fun _ _ _ _ => rfl

/-- A double is shown as itself. Not-a-number is told from null here, which a form without it would
not do. -/
theorem float : Rereads Check.float Check.float .float := fun _ _ _ _ => rfl

/-- A time is written in full and read back as the same moment with the same offset. -/
theorem time : Rereads Check.time Check.time .time :=
  fun _ moment writable valid => legible_written.time moment (writable.checked valid)

/-- A member of a vocabulary is shown as its word. -/
theorem choice {α : Type} [Vocabulary α] [Vocabulary.Lawful α] :
    Rereads Check.choice Check.choice (Vocabulary.toValue (α := α)) :=
  fun _ member _ _ => legible_written.choice member

/-- A name is shown without the blanks around it, which do not count twice against its length. -/
theorem name : Rereads checkName checkName .text :=
  fun _ _ _ valid => (name_sound valid).checked

/-! ### Values that may be missing -/

section Parts

variable {α : Type} {first second : Value → Checked α} {shown : α → Value}

/-- What may be null is read again where null itself is refused otherwise. -/
theorem nullable (again : Rereads first second shown)
    (refused : ∀ result, second .null ≠ .valid result) :
    Rereads (Checked.nullable first) (Checked.nullable second)
      fun result => (result.map shown).getD .null := by
  intro input result writable valid
  cases result with
  | none => rfl
  | some result =>
    have passes := again writable (Checked.nullable_valid valid)
    refine nullable_given ?_ passes
    intro (null : (shown result).written = .null)
    rw [null] at passes
    exact refused result passes

/-! ### Lists -/

/-- Items pass again one by one, wherever the count of them begins. By induction on the items. -/
theorem items_from (again : Rereads first second shown) {position : Nat} {inputs : List Value}
    {results : List α} (writable : ∀ input ∈ inputs, input.Writable)
    (valid : Checked.itemsFrom first position inputs = .valid results) :
    Checked.itemsFrom second position ((results.map shown).map Value.written) =
      .valid results := by
  induction inputs generalizing position results with
  | nil =>
    cases valid
    rfl
  | cons input rest inductionHypothesis =>
    rw [List.forall_mem_cons] at writable
    obtain ⟨_, others, head, later, rfl⟩ := Checked.seq_valid.mp valid
    obtain ⟨result, passed, rfl⟩ := Checked.map_valid.mp head
    have headAgain := again writable.1 (Checked.under_valid.mp passed)
    have laterAgain := inductionHypothesis writable.2 later
    simp only [List.map_cons, Checked.itemsFrom, headAgain, laterAgain, Checked.under, Checked.map,
      Checked.both]

/-- A list of any length passes again where each of its items does. -/
theorem items (again : Rereads first second shown) :
    Rereads (Checked.items first) (Checked.items second)
      fun results => .list (results.map shown) := by
  intro input results writable valid
  cases input with
  | list inputs =>
    rw [legible_written.list]
    exact again.items_from (Value.items_writable writable) valid
  | null | bool _ | int _ | float _ | text _ | time _ | record _ => cases valid

/-- So does a list that must not be empty, as showing it leaves none out. -/
theorem some_items (again : Rereads first second shown) :
    Rereads (Checked.someItems first) (Checked.someItems second)
      fun results => .list (results.map shown) := by
  intro input results writable valid
  obtain ⟨listed, isListed, filled⟩ := Checked.and_then_valid.mp valid
  split at filled
  · cases filled
  · next holdsSome =>
    cases filled
    exact Checked.and_then_valid.mpr ⟨results, again.items writable isListed, if_neg holdsSome⟩

/-! ### Fields -/

variable {fields : Fields} {name : String} {result : α}

/-- What a required field was is read again. -/
theorem required (again : Rereads first second shown) (writable : (Value.record fields).Writable)
    (valid : Checked.required fields name first = .valid result) :
    second (shown result).written = .valid result := by
  obtain ⟨input, found, passed⟩ := Checked.required_found valid
  exact again (Value.field_writable writable found) passed

/-- What an optional field was is read again, when its default is. -/
theorem optional (again : Rereads first second shown) (writable : (Value.record fields).Writable)
    {default : α} (valid : Checked.optional fields name default first = .valid result)
    (absent : second (shown default).written = .valid default) :
    second (shown result).written = .valid result := by
  rcases Checked.optional_found valid with ⟨_, rfl⟩ | ⟨input, found, passed⟩
  · exact absent
  · exact again (Value.field_writable writable found) passed

end Parts

/-- A model is read again when its fields are. -/
theorem model {α : Type} {first second : Fields → Checked α} {shown : α → Fields}
    (again : ∀ ⦃fields result⦄, (Value.record fields).Writable → first fields = .valid result →
      second ((shown result).inForm Value.written) = .valid result)
    (setting later : Setting) (name : String) :
    Rereads (Check.model setting name first) (Check.model later name second)
      fun result => .record (shown result) := by
  intro input result writable valid
  cases input with
  | record fields =>
    rw [legible_written.record]
    exact again writable valid
  | null | bool _ | int _ | float _ | text _ | time _ | list _ => cases valid

/-! ### Texts and times that may be missing -/

/-- A text that may be missing is shown as null where it is. -/
theorem nullable_text : Rereads (Checked.nullable Check.text) (Checked.nullable Check.text)
    .ofText? :=
  fun _ result _ _ => legible_written.nullable_text result

/-- A time that may be missing is shown as null where it is. -/
theorem nullable_time : Rereads (Checked.nullable Check.time) (Checked.nullable Check.time)
    .ofTime? := by
  intro input result writable valid
  have again := time.nullable (Checked.fault_invalid _ _) writable valid
  cases result <;> exact again

end Rereads

end AdRules

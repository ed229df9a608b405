/-!
# Identifiers

Identifiers are issued one after another by a supply, which never issues one twice. The numbered
ones are used where no other supply is given.
-/

namespace AdRules

/-- Where identifiers come from: the one that is issued after a number of others. -/
class IdSupply where
  issue : (issued : Nat) → String
  distinct : ∀ first second, issue first = issue second → first = second

/-- The number of an identifier can be read back from its digits. -/
theorem numbered_distinct (first second : Nat)
    (same : "id-" ++ toString (first + 1) = "id-" ++ toString (second + 1)) : first = second := by
  have digits : toString (first + 1) = toString (second + 1) :=
    (String.append_right_inj "id-").mp same
  have listed : Nat.toDigits 10 (first + 1) = Nat.toDigits 10 (second + 1) :=
    String.ofList_injective digits
  have numbers := congrArg (Nat.ofDigitChars 10 · 0) listed
  simp only [Nat.ofDigitChars_toDigits (b := 10) (by decide) (by decide)] at numbers
  omega

/-- Numbered identifiers, which a running process uses. What is proved of stores holds for every
    supply, so that random identifiers are covered as far as no two of them agree. -/
instance : IdSupply := ⟨fun issued => "id-" ++ toString (issued + 1), numbered_distinct⟩

/-- The identifier that is issued after some others, of which only the number is given. -/
def freshId [IdSupply] (issued : Nat) : String := IdSupply.issue issued

/-- No two of the issued identifiers are equal, however many are issued. Nothing else is assumed of
    them anywhere: they are compared, and never taken apart. -/
theorem fresh_id_injective [IdSupply] {first second : Nat}
    (same : freshId first = freshId second) : first = second :=
  IdSupply.distinct first second same

end AdRules

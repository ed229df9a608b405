/-!
# Cutting a text

A text is cut in two at the first occurrence of a character, or in pieces at all of them. The
character belongs to no part.
-/

namespace AdRules.Text

/-- The part before a character and, if there is one, the part behind its first occurrence. -/
def cut (mark : Char) (text : String) : String × Option String :=
  let chars := text.toList
  let before := String.ofList (chars.takeWhile (· ≠ mark))
  match chars.dropWhile (· ≠ mark) with
  | [] => (before, none)
  | _ :: behind => (before, some (String.ofList behind))

/-- The characters between the occurrences of one; there is always a first piece. -/
def pieces (mark : Char) : List Char → List (List Char)
  | [] => [[]]
  | c :: rest =>
    if c = mark then [] :: pieces mark rest
    else
      match pieces mark rest with
      | [] => [[c]]
      | piece :: others => (c :: piece) :: others

/-- The parts of a text between the occurrences of a character. -/
def split (mark : Char) (text : String) : List String :=
  (pieces mark text.toList).map String.ofList

end AdRules.Text

import AdRules.Text.Stray
import Mathlib.Data.List.Basic

/-!
# Texts and their code points

A text outside is a list of code points, among them halves of surrogate pairs that stand alone. Here
each such half is kept as its stand-in, so that a code point which serves as a stand-in cannot stand
for itself. Texts that really hold one of these 2048 private code points are left out throughout:
what is proved about whole texts says nothing about them. Every other text is kept in exactly one
form, and the form is whole exactly when the text has no half that stands alone.
-/

namespace AdRules.Text

/-- A code point that is kept apart from all others. The stand-ins are not, since each of them is
taken for the half that it stands in for. -/
def Representable (point : Nat) : Prop :=
  point < 0x110000 ∧ ¬ (0x10F000 ≤ point ∧ point < 0x10F800)

/-- The form in which the text of some code points is kept, one character for each of them. -/
def ofPoints (points : List Nat) : String := String.ofList (points.map charOfUnit)

/-- The code point that a character is kept for: the half that it stands in for, or itself. -/
def pointOf (c : Char) : Nat := (half? c).getD c.toNat

/-! ## One code point -/

/-- The halves lie between the two ranges of characters. -/
theorem is_half_iff (unit : Nat) : isHalf unit = true ↔ 0xD800 ≤ unit ∧ unit < 0xE000 := by
  unfold isHalf firstHalf halfCount
  rw [decide_eq_true_iff]

/-- The character of a half is its stand-in. -/
theorem unit_of_half {unit : Nat} (half : isHalf unit = true) :
    charOfUnit unit = Char.ofNat (0x10F000 + (unit - 0xD800)) := by
  rw [charOfUnit, if_pos half]
  rfl

/-- The character of any other unit is the unit itself. -/
theorem unit_of_whole {unit : Nat} (whole : ¬ isHalf unit = true) :
    charOfUnit unit = Char.ofNat unit := by
  rw [charOfUnit, if_neg whole]

/-- A stand-in is kept for its half. -/
theorem half_of_stray {c : Char} (stray : 0x10F000 ≤ c.toNat ∧ c.toNat < 0x10F800) :
    half? c = some (0xD800 + (c.toNat - 0x10F000)) := if_pos stray

/-- Any other character is kept for itself. -/
theorem half_of_other {c : Char} (other : ¬ (0x10F000 ≤ c.toNat ∧ c.toNat < 0x10F800)) :
    half? c = none := if_neg other

/-- The numbers of characters leave the halves out. -/
theorem char_ranges (c : Char) : c.toNat < 0xD800 ∨ 0xE000 ≤ c.toNat ∧ c.toNat < 0x110000 := by
  rcases c.valid with low | ⟨high, bounded⟩
  · exact .inl low
  · exact .inr ⟨Nat.succ_le_of_lt high, bounded⟩

/-- The character of a number that is one has that number. -/
theorem char_of_nat_toNat {number : Nat}
    (valid : number < 0xD800 ∨ 0xE000 ≤ number ∧ number < 0x110000) :
    (Char.ofNat number).toNat = number := by
  have isValid : number.isValidChar := valid
  rw [Char.ofNat, dif_pos isValid]
  rfl

/-- A representable code point is recovered from the character that is kept for it. A half is kept
as a stand-in and any other code point as itself, which is no stand-in. -/
theorem point_of_unit {point : Nat} (representable : Representable point) :
    pointOf (charOfUnit point) = point := by
  obtain ⟨bounded, apart⟩ := representable
  by_cases half : isHalf point = true
  · obtain ⟨above, below⟩ := (is_half_iff point).mp half
    have number : (Char.ofNat (0x10F000 + (point - 0xD800))).toNat = 0x10F000 + (point - 0xD800) :=
      char_of_nat_toNat (by omega)
    rw [unit_of_half half, pointOf, half_of_stray (by omega), Option.getD_some]
    omega
  · have between := mt (is_half_iff point).mpr half
    have number : (Char.ofNat point).toNat = point := char_of_nat_toNat (by omega)
    rw [unit_of_whole half, pointOf, half_of_other (number.symm ▸ apart), Option.getD_none, number]

/-- Every character is kept for a representable code point. -/
theorem point_representable (c : Char) : Representable (pointOf c) := by
  have ranges := char_ranges c
  unfold pointOf
  by_cases stray : 0x10F000 ≤ c.toNat ∧ c.toNat < 0x10F800
  · rw [half_of_stray stray, Option.getD_some]
    constructor <;> omega
  · rw [half_of_other stray, Option.getD_none]
    exact ⟨by omega, stray⟩

/-- A character stands in for a half exactly when the code point that it is kept for is one. -/
theorem half_isNone_iff (c : Char) : (half? c).isNone = true ↔ isHalf (pointOf c) = false := by
  have ranges := char_ranges c
  rw [← Bool.not_eq_true, is_half_iff, pointOf]
  by_cases stray : 0x10F000 ≤ c.toNat ∧ c.toNat < 0x10F800
  · rw [half_of_stray stray, Option.getD_some]
    exact iff_of_false Bool.false_ne_true (by omega)
  · rw [half_of_other stray, Option.getD_none]
    exact iff_of_true rfl (by omega)

/-- A character is the one that is kept for its code point. -/
theorem unit_of_point (c : Char) : charOfUnit (pointOf c) = c := by
  have ranges := char_ranges c
  unfold pointOf
  by_cases stray : 0x10F000 ≤ c.toNat ∧ c.toNat < 0x10F800
  · rw [half_of_stray stray, Option.getD_some,
      unit_of_half ((is_half_iff _).mpr (by omega)), Nat.add_sub_cancel_left,
      Nat.add_sub_cancel' stray.1, Char.ofNat_toNat]
  · rw [half_of_other stray, Option.getD_none,
      unit_of_whole (mt (is_half_iff _).mp (by omega)), Char.ofNat_toNat]

/-! ## A whole text -/

/-- Every text that is kept is the form of exactly one list of representable code points. So no two
texts outside share a form, and no form is without a text. -/
theorem text_of_points (text : String) :
    ∃! points, (∀ point ∈ points, Representable point) ∧ ofPoints points = text := by
  refine ⟨text.toList.map pointOf, ⟨?_, ?_⟩, ?_⟩
  · intro point member
    obtain ⟨c, _, rfl⟩ := List.mem_map.mp member
    exact point_representable c
  · have recovered : charOfUnit ∘ pointOf = id := funext unit_of_point
    rw [ofPoints, List.map_map, recovered, List.map_id, String.ofList_toList]
  · rintro points ⟨representable, rfl⟩
    rw [ofPoints, String.toList_ofList, List.map_map]
    exact (List.map_id'' (fun _ => rfl) points).symm.trans <|
      List.map_congr_left fun point member => (point_of_unit (representable point member)).symm

/-- The form of a text is whole exactly when no half stands alone in the text. This is what a
condition on whole texts says of the texts that are not left out. -/
theorem whole_of_points {points : List Nat}
    (representable : ∀ point ∈ points, Representable point) :
    isWhole (ofPoints points) = true ↔ ∀ point ∈ points, isHalf point = false := by
  rw [isWhole, ofPoints, String.toList_ofList, List.all_map, List.all_eq_true]
  refine forall₂_congr fun point member => ?_
  rw [Function.comp_apply, half_isNone_iff, point_of_unit (representable point member)]

end AdRules.Text

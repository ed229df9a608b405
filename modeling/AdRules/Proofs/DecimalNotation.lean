import AdRules.Proofs.WrittenTimes
import AdRules.Text.Script
import Mathlib.Data.List.TakeWhile

/-!
# Decimal notation

A number in decimal notation is a sign, digits around a point and an exponent. The grammar is over
digit runs, so that it serves the digits of ASCII alone as well as those of any script with
underscores between them. In ASCII it is exactly what readers of decimal notation read as a finite
double, and the double is that of the number.
-/

namespace AdRules.Text

/-! ## The grammar -/

/-- The number that digits denote. -/
def ofDigits (values : List Nat) : Nat := values.foldl (fun total value => 10 * total + value) 0

/-- Digits of ASCII. -/
structure Plain (chars : List Char) (values : List Nat) : Prop where
  some : chars ≠ []
  ascii : ∀ c ∈ chars, isAsciiDigit c = true
  are : chars.map (·.toNat - 48) = values

/-- A sign, which may be absent. -/
inductive Sign : Bool → List Char → Prop
  | absent : Sign false []
  | plus : Sign false ['+']
  | minus : Sign true ['-']

section Grammar

variable (Digits : List Char → List Nat → Prop)

/-- Digits before and after a point. One of the two sides may be missing, and so may the point when
nothing is behind it. -/
inductive Mantissa : List Char → List Nat → List Nat → Prop
  | whole {chars : List Char} {front : List Nat} (digits : Digits chars front) :
      Mantissa chars front []
  | pointed {chars : List Char} {front : List Nat} (digits : Digits chars front) :
      Mantissa (chars ++ ['.']) front []
  | fraction {chars : List Char} {back : List Nat} (digits : Digits chars back) :
      Mantissa ('.' :: chars) [] back
  | both {chars others : List Char} {front back : List Nat} (digits : Digits chars front)
      (behind : Digits others back) : Mantissa (chars ++ '.' :: others) front back

/-- An exponent, which may be absent. -/
inductive Exponent : List Char → Int → Prop
  | absent : Exponent [] 0
  | power {mark : Char} {sign chars : List Char} {negative : Bool} {values : List Nat}
      (marked : mark = 'e' ∨ mark = 'E') (signed : Sign negative sign)
      (digits : Digits chars values) :
      Exponent (mark :: (sign ++ chars)) (Text.signed negative (ofDigits values))

/-- A number in decimal notation. -/
inductive Written : List Char → Decimal → Prop
  | number {sign mantissa exponent : List Char} {negative : Bool} {front back : List Nat}
      {power : Int} (signed : Sign negative sign) (digits : Mantissa Digits mantissa front back)
      (scaled : Exponent Digits exponent power) :
      Written (sign ++ (mantissa ++ exponent))
        ⟨negative, ofDigits (front ++ back), power - back.length⟩

end Grammar

/-! ## Reading ASCII -/

/-- The number that digits are read as is the one that their values denote in the decimal system. -/
theorem nat_of_digits_values (chars : List Char) :
    natOfDigits chars = ofDigits (chars.map (·.toNat - 48)) := by
  rw [natOfDigits, ofDigits, List.foldl_map]

/-- Characters of a class in front of one that is not in it. -/
theorem take_while_split (keep : Char → Bool) (front behind : List Char)
    (all : ∀ c ∈ front, keep c = true) (stop : ∀ c ∈ behind.head?, keep c = false) :
    (front ++ behind).takeWhile keep = front ∧ (front ++ behind).dropWhile keep = behind := by
  rw [List.takeWhile_append_of_pos all, List.dropWhile_append_of_pos all]
  cases behind with
  | nil => simp
  | cons c rest => simp [stop c (by simp)]

/-- The point ends a run of digits. -/
theorem point_is_no_digit : isAsciiDigit '.' = false := by decide

namespace Plain

variable {chars : List Char} {values : List Nat}

/-- Plain digits are digits, which is what makes the reader go on to their end. -/
theorem all_digits (plain : Plain chars values) : chars.all isAsciiDigit = true :=
  List.all_eq_true.mpr plain.ascii

/-- There is at least one plain digit, and the first character is one. -/
theorem head (plain : Plain chars values) :
    ∃ c rest, chars = c :: rest ∧ isAsciiDigit c = true := by
  obtain ⟨c, rest, rfl⟩ := List.exists_cons_of_ne_nil plain.some
  exact ⟨c, rest, rfl, plain.ascii c (by simp)⟩

/-- Plain digits are read as the number that their values denote. -/
theorem value (plain : Plain chars values) : natOfDigits chars = ofDigits values := by
  rw [nat_of_digits_values, plain.are]

end Plain

/-- Whatever is before a number, what is taken for its sign is a sign or nothing. -/
theorem take_sign_spec (chars : List Char) :
    ∃ sign, Sign (takeSign chars).1 sign ∧ chars = sign ++ (takeSign chars).2 := by
  unfold takeSign
  split
  · exact ⟨['-'], .minus, rfl⟩
  · exact ⟨['+'], .plus, rfl⟩
  · exact ⟨[], .absent, rfl⟩

/-- A sign is taken off a number that does not begin with another sign. -/
theorem take_sign_of {negative : Bool} {sign : List Char} {c : Char} {rest : List Char}
    (signed : Sign negative sign) (unsigned : c ≠ '-' ∧ c ≠ '+') :
    takeSign (sign ++ c :: rest) = (negative, c :: rest) := by
  cases signed with
  | absent =>
    unfold takeSign
    split
    · rename_i equal
      exact absurd (List.cons.inj equal).1 unsigned.1
    · rename_i equal
      exact absurd (List.cons.inj equal).1 unsigned.2
    · rfl
  | plus => rfl
  | minus => rfl

/-- A digit is not taken for a sign, so the sign in front of a number is found. -/
theorem digit_is_no_sign {c : Char} (digit : isAsciiDigit c = true) : c ≠ '-' ∧ c ≠ '+' := by
  constructor
  · rintro rfl
    exact absurd digit (by decide)
  · rintro rfl
    exact absurd digit (by decide)

/-! ### Mantissas -/

/-- Digits without a point are read as the whole part, with nothing behind it. -/
theorem read_whole {before : List Char} (some : before ≠ [])
    (ascii : ∀ c ∈ before, isAsciiDigit c = true) :
    readMantissa? before = .some (before, []) := by
  obtain ⟨taken, dropped⟩ := take_while_split isAsciiDigit before [] ascii (by simp)
  rw [List.append_nil] at taken dropped
  simp [readMantissa?, taken, dropped, some]

/-- Digits around a point are read as the whole part and the fraction, one of which may be empty but
not both. -/
theorem read_pointed {before behind : List Char} (some : before ≠ [] ∨ behind ≠ [])
    (ascii : ∀ c ∈ before, isAsciiDigit c = true) (others : ∀ c ∈ behind, isAsciiDigit c = true) :
    readMantissa? (before ++ '.' :: behind) = .some (before, behind) := by
  obtain ⟨taken, dropped⟩ := take_while_split isAsciiDigit before ('.' :: behind) ascii
    (by simp [point_is_no_digit])
  simp only [readMantissa?, taken, dropped, List.all_eq_true.mpr others]
  rcases some with front | back
  · simp [front]
  · simp [back]

/-- A mantissa is read as the digits on its two sides. -/
theorem Mantissa.read {chars : List Char} {front back : List Nat}
    (mantissa : Mantissa Plain chars front back) :
    ∃ before behind, readMantissa? chars = some (before, behind) ∧
      before.map (·.toNat - 48) = front ∧ behind.map (·.toNat - 48) = back := by
  cases mantissa with
  | whole digits => exact ⟨_, [], read_whole digits.some digits.ascii, digits.are, rfl⟩
  | pointed digits =>
    exact ⟨_, [], read_pointed (.inl digits.some) digits.ascii (by simp), digits.are, rfl⟩
  | fraction digits =>
    exact ⟨[], _, read_pointed (.inr digits.some) (List.forall_mem_nil _) digits.ascii, rfl,
      digits.are⟩
  | both digits others =>
    exact ⟨_, _, read_pointed (.inl digits.some) digits.ascii others.ascii, digits.are,
      others.are⟩

/-- Any digits, of which there is at least one, are plain and denote what their values say. -/
theorem plain_digits {chars : List Char} (some : chars ≠ [])
    (ascii : ∀ c ∈ chars, isAsciiDigit c = true) : Plain chars (chars.map (·.toNat - 48)) :=
  ⟨some, ascii, rfl⟩

/-- Digits are only read from a mantissa. -/
theorem mantissa_of_read {chars before behind : List Char}
    (read : readMantissa? chars = some (before, behind)) :
    Mantissa Plain chars (before.map (·.toNat - 48)) (behind.map (·.toNat - 48)) := by
  have front : ∀ c ∈ chars.takeWhile isAsciiDigit, isAsciiDigit c = true :=
    fun c member => List.mem_takeWhile_imp member
  have split : chars.takeWhile isAsciiDigit ++ chars.dropWhile isAsciiDigit = chars :=
    List.takeWhile_append_dropWhile
  unfold readMantissa? at read
  dsimp only at read
  generalize chars.takeWhile isAsciiDigit = taken at read front split
  generalize chars.dropWhile isAsciiDigit = dropped at read split
  subst split
  split at read
  · split_ifs at read with none
    cases read
    rw [List.append_nil]
    exact .whole (plain_digits (by simpa using none) front)
  · split_ifs at read with digits
    cases read
    simp only [Bool.and_eq_true, List.all_eq_true, Bool.not_eq_true', Bool.and_eq_false_iff,
      List.isEmpty_eq_false_iff] at digits
    obtain ⟨ascii, some⟩ := digits
    by_cases frontless : before = []
    · subst frontless
      exact .fraction (plain_digits (some.resolve_left (by simp)) ascii)
    · by_cases backless : behind = []
      · subst backless
        exact .pointed (plain_digits frontless front)
      · exact .both (plain_digits frontless front) (plain_digits backless ascii)
  · cases read

/-- A mantissa begins with a digit or a point. -/
theorem Mantissa.head {chars : List Char} {front back : List Nat}
    (mantissa : Mantissa Plain chars front back) :
    ∃ c rest, chars = c :: rest ∧ (isAsciiDigit c = true ∨ c = '.') := by
  cases mantissa with
  | whole digits =>
    obtain ⟨c, rest, rfl, digit⟩ := digits.head
    exact ⟨c, rest, rfl, .inl digit⟩
  | pointed digits =>
    obtain ⟨c, rest, rfl, digit⟩ := digits.head
    exact ⟨c, _, rfl, .inl digit⟩
  | fraction digits => exact ⟨'.', _, rfl, .inr rfl⟩
  | both digits others =>
    obtain ⟨c, rest, rfl, digit⟩ := digits.head
    exact ⟨c, _, rfl, .inl digit⟩

/-- A mantissa is made of digits and a point. -/
theorem Mantissa.chars {chars : List Char} {front back : List Nat}
    (mantissa : Mantissa Plain chars front back) :
    ∀ c ∈ chars, isAsciiDigit c = true ∨ c = '.' := by
  intro c member
  cases mantissa with
  | whole digits => exact .inl (digits.ascii c member)
  | pointed digits =>
    rcases List.mem_append.mp member with before | point
    · exact .inl (digits.ascii c before)
    · exact .inr (List.mem_singleton.mp point)
  | fraction digits =>
    rcases List.mem_cons.mp member with point | behind
    · exact .inr point
    · exact .inl (digits.ascii c behind)
  | both digits others =>
    rcases List.mem_append.mp member with before | rest
    · exact .inl (digits.ascii c before)
    · rcases List.mem_cons.mp rest with point | behind
      · exact .inr point
      · exact .inl (others.ascii c behind)

/-! ### Exponents -/

/-- A written exponent is read as its power; none at all is the power zero. -/
theorem Exponent.read {chars : List Char} {power : Int} (exponent : Exponent Plain chars power) :
    exponentOf? chars = some power := by
  cases exponent with
  | absent => rfl
  | power marked signed digits =>
    obtain ⟨c, rest, rfl, digit⟩ := digits.head
    simp only [exponentOf?, take_sign_of signed (digit_is_no_sign digit), digits.all_digits,
      digits.value]
    rfl

/-- Exponents are only read from their notation. -/
theorem exponent_of_read {chars : List Char} {power : Int}
    (marked : ∀ c ∈ chars.head?, c = 'e' ∨ c = 'E') (read : exponentOf? chars = some power) :
    Exponent Plain chars power := by
  cases chars with
  | nil =>
    cases read
    exact .absent
  | cons mark rest =>
    obtain ⟨sign, signed, is⟩ := take_sign_spec rest
    simp only [exponentOf?] at read
    split_ifs at read with digits
    cases read
    simp only [Bool.or_eq_true, List.isEmpty_iff, Bool.not_eq_true', not_or,
      Bool.not_eq_false, List.all_eq_true] at digits
    obtain ⟨some, ascii⟩ := digits
    conv_lhs => rw [is]
    rw [nat_of_digits_values]
    exact .power (marked mark (by simp)) signed (plain_digits some ascii)

/-- An exponent begins with its letter, which tells it from the digits before it. -/
theorem Exponent.head {chars : List Char} {power : Int} (exponent : Exponent Plain chars power) :
    ∀ c ∈ chars.head?, c = 'e' ∨ c = 'E' := by
  intro c first
  cases exponent with
  | absent => cases first
  | power marked signed digits =>
    cases first
    exact marked

/-! ### Numbers -/

/-- What mantissas are made of comes before the letters. -/
theorem numeric_le {c : Char} (numeric : isAsciiDigit c = true ∨ c = '.') : c ≤ '9' := by
  rcases numeric with digit | rfl
  · exact (of_decide_eq_true digit).2
  · decide

/-- A digit or a point is no letter, whichever case letters are brought into. So nothing that looks
like a number is read as a word such as infinity. -/
theorem numeric_lower_ne {c letter : Char} (numeric : isAsciiDigit c = true ∨ c = '.')
    (small : 'a' ≤ letter) : asciiLower c ≠ letter := by
  have below := numeric_le numeric
  have same : asciiLower c = c :=
    if_neg fun capital => absurd (Char.le_trans capital.1 below) (by decide)
  rw [same]
  rintro rfl
  exact absurd (Char.le_trans small below) (by decide)

/-- Words are read as doubles that are not finite, and begin with neither a digit nor a point. -/
theorem word_read {negative : Bool} {chars : List Char} {word : Double}
    (read : readWord? negative chars = some word) :
    word.isFinite = false ∧
      ∀ c ∈ chars.head?, isAsciiDigit c = false ∧ c ≠ '.' := by
  have initial {letter : Char} {rest : List Char} (small : 'a' ≤ letter)
      (is : chars.map asciiLower = letter :: rest) :
      ∀ c ∈ chars.head?, isAsciiDigit c = false ∧ c ≠ '.' := by
    intro c first
    obtain ⟨others, rfl⟩ := List.head?_eq_some_iff.mp first
    have same : asciiLower c = letter := (List.cons.inj is).1
    rw [← Bool.not_eq_true]
    exact ⟨fun digit => numeric_lower_ne (.inl digit) small same,
      fun point => numeric_lower_ne (.inr point) small same⟩
  have letters {text : String} (is : String.ofList (chars.map asciiLower) = text) :
      chars.map asciiLower = text.toList := by
    rw [← is, String.toList_ofList]
  unfold readWord? at read
  split at read
  · rename_i is
    cases read
    exact ⟨rfl, initial (by decide) (letters is)⟩
  · rename_i is
    cases read
    exact ⟨rfl, initial (by decide) (letters is)⟩
  · rename_i is
    cases read
    exact ⟨rfl, initial (by decide) (letters is)⟩
  · cases read

/-- The characters before an exponent, which none of them marks. -/
theorem before_exponent {mantissa exponent : List Char}
    (numeric : ∀ c ∈ mantissa, isAsciiDigit c = true ∨ c = '.')
    (marked : ∀ c ∈ exponent.head?, c = 'e' ∨ c = 'E') :
    (mantissa ++ exponent).takeWhile (fun c => !(c == 'e' || c == 'E')) = mantissa ∧
      (mantissa ++ exponent).dropWhile (fun c => !(c == 'e' || c == 'E')) = exponent := by
  apply take_while_split
  · intro c member
    have below := numeric_le (numeric c member)
    have small : c ≠ 'e' := by
      rintro rfl
      exact absurd below (by decide)
    have large : c ≠ 'E' := by
      rintro rfl
      exact absurd below (by decide)
    simp [small, large]
  · intro c first
    rcases marked c first with rfl | rfl
    · rfl
    · rfl

/-- A number in decimal notation is read as its double, the one that rounding its decimal gives. -/
theorem Written.read {chars : List Char} {number : Decimal} (written : Written Plain chars number) :
    readDouble? chars = some (Double.ofDecimal number) := by
  cases written with
  | @number sign body exponent negative front back power signed mantissa scaled =>
    obtain ⟨c, rest, is, numeric⟩ := mantissa.head
    have unsigned : c ≠ '-' ∧ c ≠ '+' := by
      rcases numeric with digit | rfl
      · exact digit_is_no_sign digit
      · decide
    have split : takeSign (sign ++ (body ++ exponent)) = (negative, body ++ exponent) := by
      rw [is]
      exact take_sign_of signed unsigned
    have wordless : readWord? negative (body ++ exponent) = none := by
      by_contra word
      obtain ⟨double, isWord⟩ := Option.ne_none_iff_exists'.mp word
      obtain ⟨noDigit, noPoint⟩ := (word_read isWord).2 c (by rw [is]; rfl)
      rcases numeric with digit | point
      · rw [noDigit] at digit
        cases digit
      · exact noPoint point
    obtain ⟨taken, dropped⟩ := before_exponent mantissa.chars scaled.head
    obtain ⟨before, behind, isRead, frontIs, backIs⟩ := mantissa.read
    have digits : natOfDigits (before ++ behind) = ofDigits (front ++ back) := by
      rw [nat_of_digits_values, List.map_append, frontIs, backIs]
    have places : behind.length = back.length := by rw [← backIs, List.length_map]
    simp only [readDouble?, split, wordless, taken, dropped, isRead, scaled.read, bind,
      Option.bind, pure, digits, places]

/-- A finite double is only read from decimal notation. Infinities and not-a-number are read from
words, which are left out here. -/
theorem written_of_read {chars : List Char} {double : Double}
    (read : readDouble? chars = some double) (finite : double.isFinite = true) :
    ∃ number, Written Plain chars number ∧ double = Double.ofDecimal number := by
  obtain ⟨sign, signed, is⟩ := take_sign_spec chars
  unfold readDouble? at read
  dsimp only at read
  generalize (takeSign chars).1 = negative at read signed
  generalize (takeSign chars).2 = body at read is
  split at read
  · rename_i word isWord
    cases read
    rw [(word_read isWord).1] at finite
    cases finite
  · have parts : body.takeWhile (fun c => !(c == 'e' || c == 'E')) ++
        body.dropWhile (fun c => !(c == 'e' || c == 'E')) = body :=
      List.takeWhile_append_dropWhile
    have marked : ∀ c ∈ (body.dropWhile fun c => !(c == 'e' || c == 'E')).head?,
        c = 'e' ∨ c = 'E' := by
      intro c first
      have stops := List.head?_dropWhile_not (fun c => !(c == 'e' || c == 'E')) body
      rw [first] at stops
      exact or_iff_not_imp_left.mpr (by simpa using stops)
    generalize body.takeWhile (fun c => !(c == 'e' || c == 'E')) = mantissa at read parts
    generalize body.dropWhile (fun c => !(c == 'e' || c == 'E')) = exponent at read parts marked
    obtain ⟨⟨before, behind⟩, isMantissa, rest⟩ := Option.bind_eq_some_iff.mp read
    obtain ⟨power, isExponent, made⟩ := Option.bind_eq_some_iff.mp rest
    cases made
    have written := Written.number signed (mantissa_of_read isMantissa)
      (exponent_of_read marked isExponent)
    rw [List.length_map, ← List.map_append, ← nat_of_digits_values, parts, ← is] at written
    exact ⟨_, written, rfl⟩

end AdRules.Text

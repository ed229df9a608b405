import AdRules.Proofs.Checks
import AdRules.Proofs.DecimalNotation

/-!
# Numbers in texts

A text denotes a decimal when, apart from blanks around it, it is the notation of the decimal, in
digits of any script and with single underscores between digits. Reading a text gives the double of
the decimal it denotes, and finite doubles are only read from such texts.

Reading first brings a text into the digits of ASCII and then takes the underscores out. Forwards
this leads from each part of the notation to the same part in ASCII. Back it is undone part by part,
which is possible because a run of digits ends where something else begins.
-/

namespace AdRules.Text

/-- Digits of any script, with single underscores between them. -/
inductive Run : List Char → List Nat → Prop
  | one {c : Char} {value : Nat} (digit : digitValue? c = some value) : Run [c] [value]
  | next {c : Char} {value : Nat} {chars : List Char} {values : List Nat}
      (digit : digitValue? c = some value) (rest : Run chars values) :
      Run (c :: chars) (value :: values)
  | apart {c : Char} {value : Nat} {chars : List Char} {values : List Nat}
      (digit : digitValue? c = some value) (rest : Run chars values) :
      Run (c :: '_' :: chars) (value :: values)

/-- A text denotes a decimal: it is its notation, apart from blanks at the ends. -/
def Denotes (text : String) (number : Decimal) : Prop :=
  ∃ left body right, text.toList = left ++ body ++ right ∧ (∀ c ∈ left, isBlank c = true) ∧
    (∀ c ∈ right, isBlank c = true) ∧ Written Run body number

/-! ## Characters of any script -/

/-- The characters of the notation that are no digits. -/
def notationMarks : List Char := ['_', '.', '+', '-', 'e', 'E']

/-- A character and the one of ASCII that it is read as. -/
structure Reads (c as : Char) : Prop where
  digit (value : Nat) (is : digitValue? c = some value) :
    isAsciiDigit as = true ∧ as.toNat - 48 = value
  script (is : isAsciiDigit as = true) : ∃ value, digitValue? c = some value
  mark (m : Char) (is : m ∈ notationMarks) : as = m ↔ c = m
  blank (is : isAsciiBlank as = true) : isBlank c = true

/-- The digits of ASCII by their numbers. -/
theorem ascii_digit_nat (c : Char) : isAsciiDigit c = true ↔ 48 ≤ c.toNat ∧ c.toNat ≤ 57 := by
  simp only [isAsciiDigit, decide_eq_true_eq, Char.le_def]
  exact Iff.rfl

/-- A character with the value of a digit is one of a run of ten that begins with a zero of its
script. -/
theorem digit_value_spec {c : Char} {value : Nat} (is : digitValue? c = some value) :
    ∃ first ∈ zeros, first ≤ c.toNat ∧ c.toNat < first + 10 ∧ value = c.toNat - first := by
  obtain ⟨first, found, same⟩ := Option.map_eq_some_iff.mp is
  have inside := List.find?_some found
  obtain ⟨low, high⟩ := of_decide_eq_true inside
  exact ⟨first, List.mem_of_find?_eq_some found, low, high, same.symm⟩

/-- The value of a digit is below ten, in every script. -/
theorem digit_value_lt {c : Char} {value : Nat} (is : digitValue? c = some value) : value < 10 := by
  obtain ⟨first, _, low, high, rfl⟩ := digit_value_spec is
  omega

/-- No script has a digit that is a blank. -/
theorem digit_not_blank {c : Char} {value : Nat} (is : digitValue? c = some value) :
    isBlank c = false := by
  have apart : ∀ first ∈ zeros, ∀ range ∈ blanks, first + 9 < range.1 ∨ range.2 < first := by decide
  obtain ⟨first, script, low, high, _⟩ := digit_value_spec is
  rw [isBlank, inRanges, List.any_eq_false]
  intro range member
  have distinct := apart first script range member
  simp only [decide_eq_true_eq]
  omega

/-- A character of ASCII is read as itself. -/
theorem reads_ascii {c : Char} (ascii : c.toNat < 0x80) : Reads c c where
  digit := by
    have others : ∀ first ∈ zeros, first = 0x30 ∨ 0x80 ≤ first := by decide
    intro value is
    obtain ⟨first, script, low, high, rfl⟩ := digit_value_spec is
    rcases others first script with rfl | beyond
    · exact ⟨(ascii_digit_nat c).mpr ⟨low, by omega⟩, rfl⟩
    · omega
  script := by
    intro is
    have inside := (ascii_digit_nat c).mp is
    have found : decide (0x30 ≤ c.toNat ∧ c.toNat < 0x30 + 10) = true :=
      decide_eq_true ⟨inside.1, by omega⟩
    exact ⟨c.toNat - 0x30, by rw [digitValue?, zeros, List.find?_cons, found]; rfl⟩
  mark := fun m _ => Iff.rfl
  blank := by
    intro is
    simp only [isAsciiBlank, Bool.or_eq_true, decide_eq_true_eq] at is
    rw [isBlank, inRanges, List.any_eq_true]
    rcases is with rfl | control
    · exact ⟨(0x1C, 0x20), by decide, by decide⟩
    · exact ⟨(0x9, 0xD), by decide, by simpa using control⟩

/-- A character beyond ASCII is no mark, nor is what it is read as. -/
theorem marks_apart {c as : Char} (beyond : ¬ c.toNat < 0x7F) (unmarked : as ∉ notationMarks)
    (m : Char) (is : m ∈ notationMarks) : as = m ↔ c = m := by
  have ascii : ∀ m ∈ notationMarks, m.toNat < 0x7F := by
    rw [← List.forall_iff_forall_mem]
    decide
  constructor
  · rintro rfl
    exact absurd is unmarked
  · rintro rfl
    exact absurd (ascii c is) beyond

/-- Reading a character in ASCII is what makes it a numeral: digits of any script become those of
ASCII, blanks become blanks, and other characters of ASCII stay. -/
theorem reads_numeral (c : Char) : Reads c (numeralOf c) := by
  unfold numeralOf
  split_ifs with ascii blank
  · exact reads_ascii (by omega)
  · refine ⟨fun value is => ?_, fun is => absurd is (by decide), marks_apart ascii (by decide),
      fun _ => blank⟩
    rw [digit_not_blank is] at blank
    cases blank
  · split
    · rename_i value digit
      have digits : ∀ value < 10, isAsciiDigit (Char.ofNat (48 + value)) = true ∧
          (Char.ofNat (48 + value)).toNat - 48 = value ∧
          Char.ofNat (48 + value) ∉ notationMarks ∧
          isAsciiBlank (Char.ofNat (48 + value)) = false := by decide
      obtain ⟨isDigit, isValue, unmarked, noBlank⟩ := digits value (digit_value_lt digit)
      refine ⟨fun other is => ?_, fun _ => ⟨value, digit⟩, marks_apart ascii unmarked,
        fun is => ?_⟩
      · rw [digit] at is
        cases is
        exact ⟨isDigit, isValue⟩
      · rw [noBlank] at is
        cases is
    · rename_i none
      refine ⟨fun value is => ?_, fun is => absurd is (by decide),
        marks_apart ascii (by decide), fun is => absurd is (by decide)⟩
      rw [none] at is
      cases is

/-- A text is read character by character. -/
theorem numeral_reads (text : String) :
    ∃ read : Char → Char, numeral text = text.toList.map read ∧ ∀ c, Reads c (read c) := by
  unfold numeral
  dsimp only
  split_ifs with ascii
  · refine ⟨fun c => if c.toNat < 0x80 then c else numeralOf c, ?_, fun c => ?_⟩
    · calc text.toList = text.toList.map id := (List.map_id _).symm
        _ = _ := List.map_congr_left fun c member =>
          (if_pos (of_decide_eq_true (List.all_eq_true.mp ascii c member))).symm
    · dsimp only
      split_ifs with small
      · exact reads_ascii small
      · exact reads_numeral c
  · exact ⟨numeralOf, rfl, reads_numeral⟩

/-! ## Underscores -/

/-- What stands before anything but an underscore does not matter to it. -/
theorem joined_after_any {chars : List Char} (unscored : ∀ c ∈ chars.head?, c ≠ '_')
    (after : Bool) : joinedAfter? after chars = joinedAfter? false chars := by
  cases chars with
  | nil => simp only [joinedAfter?]
  | cons c rest => simp only [joinedAfter?, if_neg (unscored c rfl)]

/-- Without their underscores, and in ASCII, the characters are these, whatever stands around
them. -/
structure Joins (read : Char → Char) (chars out : List Char) : Prop where
  unscored : ∀ c ∈ (chars.map read).head?, c ≠ '_'
  joined (after : Bool) (rest : List Char) (apart : ∀ c ∈ rest.head?, c ≠ '_') :
    joinedAfter? after (chars.map read ++ rest) = (joinedAfter? false rest).map (out ++ ·)

namespace Joins

variable {read : Char → Char} {chars others out more : List Char}

/-- Nothing is joined to nothing. -/
theorem nil : Joins read [] [] where
  unscored := by simp
  joined := by
    intro after rest apart
    rw [List.map_nil, List.nil_append, joined_after_any apart]
    simp

/-- A character that is no underscore is joined to itself. -/
theorem single {c : Char} (unscored : read c ≠ '_') : Joins read [c] [read c] where
  unscored := by simpa using unscored
  joined := by
    intro after rest apart
    rw [List.map_singleton, List.singleton_append, joinedAfter?, if_neg unscored,
      joined_after_any apart]
    rfl

/-- What is joined piece by piece is joined as a whole, since neither piece begins with an
underscore. -/
theorem append (first : Joins read chars out) (second : Joins read others more) :
    Joins read (chars ++ others) (out ++ more) where
  unscored := by
    intro c is
    rw [List.map_append, List.head?_append] at is
    rcases Option.or_eq_some_iff.mp is with front | ⟨_, back⟩
    · exact first.unscored c front
    · exact second.unscored c back
  joined := by
    intro after rest apart
    have between : ∀ c ∈ (others.map read ++ rest).head?, c ≠ '_' := by
      intro c is
      rw [List.head?_append] at is
      rcases Option.or_eq_some_iff.mp is with front | ⟨_, back⟩
      · exact second.unscored c front
      · exact apart c back
    rw [List.map_append, List.append_assoc, first.joined after _ between,
      second.joined false rest apart, Option.map_map]
    simp only [Function.comp_def, List.append_assoc]

end Joins

/-- A run begins with a digit. An underscore stands only between digits. -/
theorem Run.head {chars : List Char} {values : List Nat} (run : Run chars values) :
    ∃ c rest value, chars = c :: rest ∧ digitValue? c = some value := by
  cases run with
  | one is => exact ⟨_, _, _, rfl, is⟩
  | next is _ => exact ⟨_, _, _, rfl, is⟩
  | apart is _ => exact ⟨_, _, _, rfl, is⟩

/-- A digit is no underscore. -/
theorem digit_unscored {c : Char} (digit : isAsciiDigit c = true) : c ≠ '_' := by
  rintro rfl
  exact absurd digit (by decide)

section Forward

variable {read : Char → Char} (reads : ∀ c, Reads c (read c))

include reads

/-- A mark of the notation is joined to itself, because reading in ASCII leaves it as it is. -/
theorem joins_mark {m : Char} (is : m ∈ notationMarks) (unscored : m ≠ '_') :
    Joins read [m] [m] := by
  have same : read m = m := ((reads m).mark m is).mpr rfl
  have single : Joins read [m] [read m] := .single (by rwa [same])
  rwa [same] at single

/-- A run of digits with single underscores between them is joined to plain digits of the same
values. By induction on the run. -/
theorem Run.joins {chars : List Char} {values : List Nat} (run : Run chars values) :
    ∃ out, Joins read chars out ∧ Plain out values := by
  induction run with
  | @one c value is =>
    obtain ⟨digit, same⟩ := (reads c).digit value is
    refine ⟨[read c], .single (digit_unscored digit), by simp, by simpa using digit, ?_⟩
    rw [List.map_singleton, same]
  | @next c value chars values is rest inductionHypothesis =>
    obtain ⟨digit, same⟩ := (reads c).digit value is
    obtain ⟨out, joins, plain⟩ := inductionHypothesis
    refine ⟨read c :: out, (Joins.single (digit_unscored digit)).append joins, by simp, ?_, ?_⟩
    · exact List.forall_mem_cons.mpr ⟨digit, plain.ascii⟩
    · rw [List.map_cons, same, plain.are]
  | @apart c value chars values is rest inductionHypothesis =>
    obtain ⟨digit, same⟩ := (reads c).digit value is
    obtain ⟨out, joins, plain⟩ := inductionHypothesis
    have underscore : read '_' = '_' := ((reads '_').mark '_' (by decide)).mpr rfl
    refine ⟨read c :: out, ⟨?_, ?_⟩, by simp, ?_, ?_⟩
    · simpa using digit_unscored digit
    · intro after behind apart
      have follows : (chars.map read ++ behind).head?.any isAsciiDigit = true := by
        obtain ⟨first, _, number, rfl, isFirst⟩ := rest.head
        simpa using ((reads first).digit number isFirst).1
      rw [List.map_cons, List.map_cons, List.cons_append, List.cons_append, underscore,
        joinedAfter?, if_neg (digit_unscored digit), digit, joinedAfter?, if_pos rfl, follows,
        Bool.and_true, if_pos rfl, joins.joined false behind apart, Option.map_map]
      rfl
    · exact List.forall_mem_cons.mpr ⟨digit, plain.ascii⟩
    · rw [List.map_cons, same, plain.are]

/-- A sign is joined to itself. -/
theorem Sign.joins {negative : Bool} {chars : List Char} (sign : Sign negative chars) :
    Joins read chars chars := by
  cases sign with
  | absent => exact .nil
  | plus => exact joins_mark reads (by decide) (by decide)
  | minus => exact joins_mark reads (by decide) (by decide)

/-- A mantissa in any script is joined to a plain one with the same digits before and behind the
point. -/
theorem Mantissa.joins {chars : List Char} {front back : List Nat}
    (mantissa : Mantissa Run chars front back) :
    ∃ out, Joins read chars out ∧ Mantissa Plain out front back := by
  have point : Joins read ['.'] ['.'] := joins_mark reads (by decide) (by decide)
  cases mantissa with
  | whole digits =>
    obtain ⟨out, joins, plain⟩ := digits.joins reads
    exact ⟨out, joins, .whole plain⟩
  | pointed digits =>
    obtain ⟨out, joins, plain⟩ := digits.joins reads
    exact ⟨_, joins.append point, .pointed plain⟩
  | fraction digits =>
    obtain ⟨out, joins, plain⟩ := digits.joins reads
    exact ⟨_, point.append joins, .fraction plain⟩
  | both digits others =>
    obtain ⟨out, joins, plain⟩ := digits.joins reads
    obtain ⟨more, joinsMore, plainMore⟩ := others.joins reads
    exact ⟨_, joins.append (point.append joinsMore), .both plain plainMore⟩

/-- An exponent in any script is joined to a plain one with the same power. -/
theorem Exponent.joins {chars : List Char} {power : Int} (exponent : Exponent Run chars power) :
    ∃ out, Joins read chars out ∧ Exponent Plain out power := by
  cases exponent with
  | absent => exact ⟨[], .nil, .absent⟩
  | @power mark sign _ _ _ marked signed digits =>
    have markJoins : Joins read [mark] [mark] := by
      rcases marked with rfl | rfl
      · exact joins_mark reads (by decide) (by decide)
      · exact joins_mark reads (by decide) (by decide)
    obtain ⟨out, joins, plain⟩ := digits.joins reads
    exact ⟨mark :: (sign ++ out), markJoins.append ((signed.joins reads).append joins),
      .power marked signed plain⟩

/-- Joining leads from a notation in any script to one in ASCII of the same number. -/
theorem Written.joins {chars : List Char} {number : Decimal} (written : Written Run chars number) :
    ∃ out, Joins read chars out ∧ Written Plain out number := by
  cases written with
  | number signed mantissa scaled =>
    obtain ⟨out, joins, digits⟩ := mantissa.joins reads
    obtain ⟨more, joinsMore, power⟩ := scaled.joins reads
    exact ⟨_, (signed.joins reads).append (joins.append joinsMore), .number signed digits power⟩

end Forward

/-! ### Back to any script -/

section Back

variable {read : Char → Char} {chars out : List Char}

/-- What is joined to nothing is nothing. -/
theorem nil_of_joined (joined : joinedAfter? false (chars.map read) = some []) : chars = [] := by
  cases chars with
  | nil => rfl
  | cons c rest =>
    rw [List.map_cons, joinedAfter?, Bool.false_and, if_neg Bool.false_ne_true] at joined
    split_ifs at joined with underscore
    obtain ⟨_, _, impossible⟩ := Option.map_eq_some_iff.mp joined
    cases impossible

/-- The first character comes from one that is read as it. -/
theorem cons_of_joined {first : Char}
    (joined : joinedAfter? false (chars.map read) = some (first :: out)) :
    ∃ c rest, chars = c :: rest ∧ read c = first ∧
      joinedAfter? (isAsciiDigit first) (rest.map read) = some out := by
  cases chars with
  | nil => simp [joinedAfter?] at joined
  | cons c rest =>
    rw [List.map_cons, joinedAfter?, Bool.false_and, if_neg Bool.false_ne_true] at joined
    split_ifs at joined with underscore
    obtain ⟨others, isJoined, same⟩ := Option.map_eq_some_iff.mp joined
    obtain ⟨isFirst, rfl⟩ := List.cons.inj same
    exact ⟨c, rest, rfl, isFirst, isFirst ▸ isJoined⟩

/-- Behind a digit, an underscore is followed by another digit. -/
theorem behind_digit (joined : joinedAfter? true (chars.map read) = some out) :
    (∃ c rest first more, chars = c :: rest ∧ read c = '_' ∧ out = first :: more ∧
        isAsciiDigit first = true ∧ joinedAfter? false (rest.map read) = some out) ∨
      joinedAfter? false (chars.map read) = some out := by
  cases chars with
  | nil =>
    right
    rwa [List.map_nil, joinedAfter?] at joined ⊢
  | cons c rest =>
    by_cases underscore : read c = '_'
    · left
      rw [List.map_cons, joinedAfter?, if_pos underscore, Bool.true_and] at joined
      split_ifs at joined with follows
      cases rest with
      | nil => cases follows
      | cons d others =>
        have digit : isAsciiDigit (read d) = true := by simpa using follows
        have more := joined
        rw [List.map_cons, joinedAfter?, if_neg (digit_unscored digit)] at more
        obtain ⟨tail, _, same⟩ := Option.map_eq_some_iff.mp more
        exact ⟨c, d :: others, read d, tail, rfl, underscore, same.symm, digit, joined⟩
    · right
      rw [← joined_after_any (by simpa using underscore) true]
      exact joined

variable (reads : ∀ c, Reads c (read c))

include reads

/-- A mark in what is joined was that mark before. No character of another script is read as a mark.
-/
theorem mark_of_joined {m : Char} (is : m ∈ notationMarks) (noDigit : isAsciiDigit m = false)
    (joined : joinedAfter? false (chars.map read) = some (m :: out)) :
    ∃ rest, chars = m :: rest ∧ joinedAfter? false (rest.map read) = some out := by
  obtain ⟨c, rest, rfl, isRead, others⟩ := cons_of_joined joined
  obtain rfl := ((reads c).mark m is).mp isRead
  exact ⟨rest, rfl, noDigit ▸ others⟩

/-- Digits come from a digit run, if no digit follows them. -/
theorem run_of_joined {digits behind : List Char} {values : List Nat} (plain : Plain digits values)
    (stop : ∀ c ∈ behind.head?, isAsciiDigit c = false)
    (joined : joinedAfter? false (chars.map read) = some (digits ++ behind)) :
    ∃ run rest, chars = run ++ rest ∧ Run run values ∧
      joinedAfter? false (rest.map read) = some behind := by
  obtain ⟨some, ascii, rfl⟩ := plain
  induction digits generalizing chars with
  | nil => exact absurd rfl some
  | cons d ds inductionHypothesis =>
    obtain ⟨isDigit, moreAscii⟩ := List.forall_mem_cons.mp ascii
    obtain ⟨c, rest, rfl, rfl, others⟩ := cons_of_joined joined
    obtain ⟨value, is⟩ := (reads c).script isDigit
    obtain ⟨_, same⟩ := (reads c).digit value is
    rw [isDigit] at others
    rw [List.map_cons, same]
    rcases behind_digit others with
      ⟨u, after, first, more, rfl, underscore, isMore, digit, apart⟩ | together
    · obtain rfl := ((reads u).mark '_' (by decide)).mp underscore
      have some : ds ≠ [] := by
        rintro rfl
        change behind = first :: more at isMore
        rw [stop first (by rw [isMore]; rfl)] at digit
        cases digit
      obtain ⟨run, rest, rfl, isRun, ending⟩ := inductionHypothesis apart some moreAscii
      exact ⟨c :: '_' :: run, rest, rfl, .apart is isRun, ending⟩
    · by_cases last : ds = []
      · subst last
        exact ⟨[c], rest, rfl, .one is, together⟩
      · obtain ⟨run, rest, rfl, isRun, ending⟩ := inductionHypothesis together last moreAscii
        exact ⟨c :: run, rest, rfl, .next is isRun, ending⟩

/-- A sign in what is joined was that sign before. -/
theorem sign_of_joined {negative : Bool} {sign : List Char} (signed : Sign negative sign)
    (joined : joinedAfter? false (chars.map read) = some (sign ++ out)) :
    ∃ rest, chars = sign ++ rest ∧ joinedAfter? false (rest.map read) = some out := by
  cases signed with
  | absent => exact ⟨chars, rfl, joined⟩
  | plus => exact mark_of_joined reads (by decide) (by decide) joined
  | minus => exact mark_of_joined reads (by decide) (by decide) joined

/-- A plain mantissa in what is joined was one of any script before, with the same digits. What
follows it must not go on with a digit. -/
theorem mantissa_of_joined {mantissa behind : List Char} {front back : List Nat}
    (digits : Mantissa Plain mantissa front back)
    (stop : ∀ c ∈ behind.head?, isAsciiDigit c = false)
    (joined : joinedAfter? false (chars.map read) = some (mantissa ++ behind)) :
    ∃ other rest, chars = other ++ rest ∧ Mantissa Run other front back ∧
      joinedAfter? false (rest.map read) = some behind := by
  have point {others : List Char} : ∀ c ∈ ('.' :: others).head?, isAsciiDigit c = false := by
    simp [point_is_no_digit]
  cases digits with
  | whole digits =>
    obtain ⟨run, rest, rfl, isRun, afterRun⟩ := run_of_joined reads digits stop joined
    exact ⟨run, rest, rfl, .whole isRun, afterRun⟩
  | pointed digits =>
    rw [List.append_assoc] at joined
    obtain ⟨run, rest, rfl, isRun, afterRun⟩ := run_of_joined reads digits point joined
    obtain ⟨rest, rfl, afterPoint⟩ := mark_of_joined reads (by decide) point_is_no_digit afterRun
    exact ⟨run ++ ['.'], rest, by simp, .pointed isRun, afterPoint⟩
  | fraction digits =>
    obtain ⟨rest, rfl, afterPoint⟩ := mark_of_joined reads (by decide) point_is_no_digit joined
    obtain ⟨run, rest, rfl, isRun, afterRun⟩ := run_of_joined reads digits stop afterPoint
    exact ⟨'.' :: run, rest, rfl, .fraction isRun, afterRun⟩
  | both digits others =>
    rw [List.append_assoc] at joined
    obtain ⟨run, rest, rfl, isRun, afterRun⟩ := run_of_joined reads digits point joined
    obtain ⟨rest, rfl, afterPoint⟩ := mark_of_joined reads (by decide) point_is_no_digit afterRun
    obtain ⟨more, rest, rfl, isMore, afterMore⟩ := run_of_joined reads others stop afterPoint
    exact ⟨run ++ '.' :: more, rest, by simp, .both isRun isMore, afterMore⟩

/-- A plain exponent in what is joined was one of any script before, with the same power. -/
theorem exponent_of_joined {exponent : List Char} {power : Int}
    (scaled : Exponent Plain exponent power)
    (joined : joinedAfter? false (chars.map read) = some exponent) :
    Exponent Run chars power := by
  cases scaled with
  | absent =>
    obtain rfl := nil_of_joined joined
    exact .absent
  | @power mark sign digits _ _ marked signed plain =>
    have isMark : mark ∈ notationMarks ∧ isAsciiDigit mark = false := by
      rcases marked with rfl | rfl
      · decide
      · decide
    obtain ⟨rest, rfl, afterMark⟩ := mark_of_joined reads isMark.1 isMark.2 joined
    obtain ⟨rest, rfl, afterSign⟩ := sign_of_joined reads signed afterMark
    rw [← List.append_nil digits] at afterSign
    obtain ⟨run, rest, rfl, isRun, afterRun⟩ := run_of_joined reads plain (by simp) afterSign
    obtain rfl := nil_of_joined afterRun
    rw [List.append_nil]
    exact .power marked signed isRun

/-- What is joined to a notation in ASCII is a notation of the same number. -/
theorem written_of_joined {number : Decimal} (written : Written Plain out number)
    (joined : joinedAfter? false (chars.map read) = some out) : Written Run chars number := by
  cases written with
  | @number _ _ exponent _ _ _ _ signed digits scaled =>
    have stop : ∀ c ∈ exponent.head?, isAsciiDigit c = false := by
      intro c first
      rcases scaled.head c first with rfl | rfl
      · decide
      · decide
    obtain ⟨rest, rfl, afterSign⟩ := sign_of_joined reads signed joined
    obtain ⟨mantissa, rest, rfl, isMantissa, afterMantissa⟩ :=
      mantissa_of_joined reads digits stop afterSign
    exact .number signed isMantissa (exponent_of_joined reads scaled afterMantissa)

end Back

/-! ## Blanks -/

/-- No digit is a blank, and no underscore is, so a run has none. -/
theorem Run.unblank {chars : List Char} {values : List Nat} (run : Run chars values) :
    ∀ c ∈ chars, isBlank c = false := by
  induction run with
  | one is => exact List.forall_mem_singleton.mpr (digit_not_blank is)
  | next is _ inductionHypothesis =>
    exact List.forall_mem_cons.mpr ⟨digit_not_blank is, inductionHypothesis⟩
  | apart is _ inductionHypothesis =>
    exact List.forall_mem_cons.mpr ⟨digit_not_blank is,
      List.forall_mem_cons.mpr ⟨by decide, inductionHypothesis⟩⟩

/-- No sign is a blank. -/
theorem Sign.unblank {negative : Bool} {chars : List Char} (sign : Sign negative chars) :
    ∀ c ∈ chars, isBlank c = false := by
  cases sign with
  | absent => exact List.forall_mem_nil _
  | plus => exact List.forall_mem_singleton.mpr (by decide)
  | minus => exact List.forall_mem_singleton.mpr (by decide)

/-- There are no blanks in a mantissa, so blanks around a number can be stripped first. -/
theorem Mantissa.unblank {chars : List Char} {front back : List Nat}
    (mantissa : Mantissa Run chars front back) : ∀ c ∈ chars, isBlank c = false := by
  have point : isBlank '.' = false := by decide
  cases mantissa with
  | whole digits => exact digits.unblank
  | pointed digits =>
    exact List.forall_mem_append.mpr ⟨digits.unblank, List.forall_mem_singleton.mpr point⟩
  | fraction digits => exact List.forall_mem_cons.mpr ⟨point, digits.unblank⟩
  | both digits others =>
    exact List.forall_mem_append.mpr ⟨digits.unblank,
      List.forall_mem_cons.mpr ⟨point, others.unblank⟩⟩

/-- There are no blanks in an exponent, its sign and its mark included. -/
theorem Exponent.unblank {chars : List Char} {power : Int} (exponent : Exponent Run chars power) :
    ∀ c ∈ chars, isBlank c = false := by
  cases exponent with
  | absent => exact List.forall_mem_nil _
  | power marked signed digits =>
    refine List.forall_mem_cons.mpr ⟨?_, List.forall_mem_append.mpr
      ⟨signed.unblank, digits.unblank⟩⟩
    rcases marked with rfl | rfl
    · decide
    · decide

/-- No blank stands in the notation of a number. -/
theorem Written.unblank {chars : List Char} {number : Decimal}
    (written : Written Run chars number) :
    ∀ c ∈ chars, isBlank c = false := by
  cases written with
  | number signed digits scaled =>
    exact List.forall_mem_append.mpr ⟨signed.unblank,
      List.forall_mem_append.mpr ⟨digits.unblank, scaled.unblank⟩⟩

/-- What stands between characters that are taken off is left, if it has none of them itself. -/
theorem trim_both_between {drop : Char → Bool} {left body right : List Char}
    (before : ∀ c ∈ left, drop c = true) (behind : ∀ c ∈ right, drop c = true)
    (kept : ∀ c ∈ body, drop c = false) : trimBoth drop (left ++ body ++ right) = body := by
  cases body with
  | nil =>
    have all : ∀ c ∈ left ++ right, drop c = true := List.forall_mem_append.mpr ⟨before, behind⟩
    rw [trimBoth, List.append_nil, List.dropWhile_eq_nil_iff.mpr all]
    rfl
  | cons first rest =>
    have front := (take_while_split drop left (first :: rest ++ right) before
      (by simpa using kept first (by simp))).2
    have back := (take_while_split drop right.reverse (first :: rest).reverse
      (by simpa using behind) fun c last => kept c
        (List.mem_reverse.mp (List.mem_of_mem_head? last))).2
    rw [trimBoth, List.append_assoc, front, List.reverse_append, back, List.reverse_reverse]

/-- Taking characters off the ends divides a text in three parts. -/
theorem trim_both_parts (drop : Char → Bool) (text : List Char) :
    ∃ left right, text = left ++ trimBoth drop text ++ right ∧ (∀ c ∈ left, drop c = true) ∧
      ∀ c ∈ right, drop c = true := by
  have front := List.takeWhile_append_dropWhile (p := drop) (l := text)
  have back := List.takeWhile_append_dropWhile (p := drop) (l := (text.dropWhile drop).reverse)
  refine ⟨text.takeWhile drop, ((text.dropWhile drop).reverse.takeWhile drop).reverse, ?_,
    fun c member => List.mem_takeWhile_imp member,
    fun c member => List.mem_takeWhile_imp (List.mem_reverse.mp member)⟩
  rw [trimBoth, List.append_assoc, ← List.reverse_append, back, List.reverse_reverse, front]

/-! ## Reading texts -/

/-- A text that denotes a decimal is read as its double, whatever script its digits are of and
wherever its underscores stand. -/
theorem Denotes.read {text : String} {number : Decimal} (denotes : Denotes text number) :
    toDouble? (strip text) = some (Double.ofDecimal number) := by
  obtain ⟨left, body, right, is, before, behind, written⟩ := denotes
  have trimmed : (strip text).toList = body := by
    rw [strip_toList, is, trim_both_between before behind written.unblank]
  obtain ⟨read, numeralIs, reads⟩ := numeral_reads (strip text)
  obtain ⟨out, joins, plain⟩ := written.joins reads
  have kept : ∀ c ∈ body.map read, isAsciiBlank c = false := by
    intro c member
    obtain ⟨original, inside, rfl⟩ := List.mem_map.mp member
    rw [← Bool.not_eq_true]
    intro blank
    have unblank := written.unblank original inside
    rw [(reads original).blank blank] at unblank
    cases unblank
  have whole := trim_both_between (List.forall_mem_nil _) (List.forall_mem_nil _) kept
  rw [List.nil_append, List.append_nil] at whole
  have isJoined := joins.joined false [] (by simp)
  rw [List.append_nil, joinedAfter?, Option.map_some, List.append_nil] at isJoined
  rw [toDouble?, numeralIs, trimmed, whole, joined?, isJoined]
  exact plain.read

/-- A finite double is only read from a text that denotes a decimal. With `Denotes.read` this makes
reading and denoting agree. -/
theorem denotes_of_read {text : String} {double : Double}
    (isRead : toDouble? (strip text) = some double) (finite : double.isFinite = true) :
    ∃ number, Denotes text number ∧ double = Double.ofDecimal number := by
  obtain ⟨read, numeralIs, reads⟩ := numeral_reads (strip text)
  obtain ⟨left, right, is, before, behind⟩ := trim_both_parts isBlank text.toList
  obtain ⟨inner, outer, isInner, innerBlank, outerBlank⟩ :=
    trim_both_parts (isAsciiBlank ∘ read) (strip text).toList
  obtain ⟨out, isJoined, isDouble⟩ := Option.bind_eq_some_iff.mp isRead
  have trimmed : trimBoth isAsciiBlank (numeral (strip text)) =
      (trimBoth (isAsciiBlank ∘ read) (strip text).toList).map read := by
    rw [numeralIs, trimBoth, trimBoth, List.dropWhile_map, ← List.map_reverse, List.dropWhile_map,
      List.map_reverse]
  obtain ⟨number, written, same⟩ := written_of_read isDouble finite
  rw [trimmed] at isJoined
  refine ⟨number, ⟨left ++ inner, _, outer ++ right, ?_, ?_, ?_,
    written_of_joined reads written isJoined⟩, same⟩
  · conv_lhs => rw [is, ← strip_toList, isInner]
    simp only [List.append_assoc]
  · exact List.forall_mem_append.mpr ⟨before, fun c member => (reads c).blank (innerBlank c member)⟩
  · exact List.forall_mem_append.mpr ⟨fun c member => (reads c).blank (outerBlank c member), behind⟩

/-! ## Texts of integers -/

/-- Digits of ASCII are digits of some script. -/
theorem Plain.run {chars : List Char} {values : List Nat} (plain : Plain chars values) :
    Run chars values := by
  obtain ⟨some, ascii, rfl⟩ := plain
  induction chars with
  | nil => exact absurd rfl some
  | cons c rest inductionHypothesis =>
    obtain ⟨digit, moreAscii⟩ := List.forall_mem_cons.mp ascii
    have reads : Reads c c := by
      have range := (ascii_digit_nat c).mp digit
      exact reads_ascii (by omega)
    obtain ⟨value, is⟩ := reads.script digit
    rw [List.map_cons, (reads.digit value is).2]
    by_cases last : rest = []
    · subst last
      exact .one is
    · exact .next is (inductionHypothesis last moreAscii)

/-- The digits in which an integer is written are a run that denotes the integer. -/
theorem to_digits_run (number : Nat) :
    ∃ values, Run (Nat.toDigits 10 number) values ∧ ofDigits values = number := by
  have ascii : ∀ c ∈ Nat.toDigits 10 number, isAsciiDigit c = true := by
    intro c member
    rw [ascii_digit_iff]
    exact Nat.isDigit_of_mem_toDigits (by decide) (by decide) member
  have plain := plain_digits (List.ne_nil_of_length_pos Nat.length_toDigits_pos) ascii
  refine ⟨_, plain.run, ?_⟩
  rw [← plain.value, nat_of_digits_eq]
  exact Nat.ofDigitChars_toDigits (by decide) (by decide)

/-- An integer is denoted by its text. -/
theorem int_denotes (number : Int) :
    Denotes (toString number) ⟨decide (number < 0), number.natAbs, 0⟩ := by
  obtain ⟨values, run, value⟩ := to_digits_run number.natAbs
  have written {negative : Bool} {sign : List Char} (signed : Sign negative sign) :
      Written Run (sign ++ Nat.toDigits 10 number.natAbs) ⟨negative, number.natAbs, 0⟩ := by
    have whole := Written.number signed (.whole run) .absent
    rwa [List.append_nil, List.append_nil, value] at whole
  match number with
  | .ofNat size =>
    refine ⟨[], Nat.toDigits 10 size, [], ?_, List.forall_mem_nil _, List.forall_mem_nil _,
      written .absent⟩
    rw [List.nil_append, List.append_nil]
    exact String.toList_ofList
  | .negSucc size =>
    have below : decide (Int.negSucc size < 0) = true := decide_eq_true (Int.negSucc_lt_zero size)
    rw [below]
    refine ⟨[], '-' :: Nat.toDigits 10 (size + 1), [], ?_, List.forall_mem_nil _,
      List.forall_mem_nil _, written .minus⟩
    rw [List.nil_append, List.append_nil]
    change ("-" ++ String.ofList (Nat.toDigits 10 (size + 1))).toList = _
    rw [String.toList_append, String.toList_ofList, String.toList_ofList]
    rfl

end AdRules.Text

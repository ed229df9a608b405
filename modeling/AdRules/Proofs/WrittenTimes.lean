import AdRules.Proofs.Calendar
import AdRules.Timestamp.Text
import AdRules.Validation.Scalar
import Mathlib.Data.List.Basic
import Mathlib.Data.List.Induction

/-!
# Written times

A time that is written into a record is read back as it was, to the microsecond and with its offset,
as long as its year has a number of at most four digits and its offset is made of whole minutes.
-/

namespace AdRules

/-! ## Digits -/

namespace Text

/-- Digits are read as the number that they denote in base ten. -/
theorem nat_of_digits_eq (digits : List Char) : natOfDigits digits = Nat.ofDigitChars 10 digits 0 :=
  rfl

/-- The digits of ASCII are those of the standard library. -/
theorem ascii_digit_iff (c : Char) : isAsciiDigit c = c.isDigit := by
  rw [Bool.eq_iff_iff]
  simp [isAsciiDigit, Char.isDigit, Char.le_def]

/-- One more digit. -/
theorem nat_of_digits_append (digits : List Char) (last : Char) :
    natOfDigits (digits ++ [last]) = 10 * natOfDigits digits + (last.toNat - 48) := by
  simp [natOfDigits, List.foldl_append]

/-- Zeros in front do not count. -/
theorem nat_of_digits_zeros (count : Nat) (digits : List Char) :
    natOfDigits (List.replicate count '0' ++ digits) = natOfDigits digits := by
  have zeros : (List.replicate count '0').foldl
      (fun total (c : Char) => 10 * total + (c.toNat - 48)) 0 = 0 := by
    induction count with
    | zero => rfl
    | succ count inductionHypothesis => simpa [List.replicate_succ] using inductionHypothesis
  simp [natOfDigits, List.foldl_append, zeros]

/-- The value of a digit is at most nine. -/
theorem digit_le (c : Char) (digit : isAsciiDigit c = true) : c.toNat - 48 ≤ 9 := by
  simp only [isAsciiDigit, decide_eq_true_eq, Char.le_def] at digit
  have upper : c.toNat ≤ 57 := digit.2
  omega

/-- So many digits denote a number with no more. -/
theorem nat_of_digits_lt {digits : List Char} (all : ∀ c ∈ digits, isAsciiDigit c = true) :
    natOfDigits digits < 10 ^ digits.length := by
  induction digits using List.reverseRecOn with
  | nil => decide
  | append_singleton digits last inductionHypothesis =>
    have earlier := inductionHypothesis fun c member => all c (by simp [member])
    have lastDigit := digit_le last (all last (by simp))
    rw [nat_of_digits_append, List.length_append, List.length_singleton, pow_succ]
    omega

/-- The digits that a number is written with, at least so many as asked for. -/
structure Spells (width number : Nat) (digits : List Char) : Prop where
  length : digits.length = width
  ascii : ∀ c ∈ digits, isAsciiDigit c = true
  value : natOfDigits digits = number

/-- A number that fits is written in exactly so many digits. -/
theorem pad_left_spells {width number : Nat} (positive : 0 < width) (fits : number < 10 ^ width) :
    Spells width number (padLeft width (Nat.toDigits 10 number)) where
  length := by
    have short := (Nat.length_toDigits_le_iff (by decide) positive).mpr fits
    simp only [padLeft, List.length_append, List.length_replicate]
    omega
  ascii := by
    intro c member
    rcases List.mem_append.mp member with zero | digit
    · rw [List.eq_of_mem_replicate zero]
      decide
    · rw [ascii_digit_iff]
      exact Nat.isDigit_of_mem_toDigits (by decide) (by decide) digit
  value := by
    refine (nat_of_digits_zeros _ _).trans ?_
    rw [nat_of_digits_eq]
    exact Nat.ofDigitChars_toDigits (by decide) (by decide)

/-- A number below a hundred is two digits. -/
theorem two_digits {number : Nat} (fits : number < 100) :
    ∃ tens ones, padLeft 2 (Nat.toDigits 10 number) = [tens, ones] ∧
      Timestamp.twoDigits? tens ones = some number := by
  have spells := pad_left_spells (by decide) (show number < 10 ^ 2 from fits)
  obtain ⟨tens, ones, are⟩ := List.length_eq_two.mp spells.length
  have ascii := spells.ascii
  have value := spells.value
  rw [are] at ascii value
  have tensDigit := ascii tens (by simp)
  have onesDigit := ascii ones (by simp)
  exact ⟨tens, ones, are, by simp [Timestamp.twoDigits?, tensDigit, onesDigit, value]⟩

/-- A number below ten thousand is four digits. -/
theorem four_digits {number : Nat} (fits : number < 10000) :
    ∃ d1 d2 d3 d4, padLeft 4 (Nat.toDigits 10 number) = [d1, d2, d3, d4] ∧
      ([d1, d2, d3, d4].all isAsciiDigit) = true ∧ natOfDigits [d1, d2, d3, d4] = number := by
  have spells := pad_left_spells (by decide) (show number < 10 ^ 4 from fits)
  obtain ⟨d1, rest, are⟩ := List.exists_cons_of_length_eq_add_one spells.length
  have three : rest.length = 3 := by simpa [are] using spells.length
  obtain ⟨d2, d3, d4, rfl⟩ := List.length_eq_three.mp three
  have ascii := spells.ascii
  have value := spells.value
  rw [are] at ascii value
  exact ⟨d1, d2, d3, d4, are, List.all_eq_true.mpr ascii, value⟩

end Text

/-! ## Bytes -/

/-- Going through bytes one by one gives them in order. -/
theorem byte_loop_eq (bytes : ByteArray) (position : Nat) (before : List UInt8)
    (inside : position ≤ bytes.size) :
    ByteArray.toList.loop bytes position before =
      before.reverse ++ bytes.data.toList.drop position := by
  have size : bytes.size = bytes.data.toList.length := by
    rw [Array.length_toList]
    rfl
  obtain ⟨rest, is⟩ : ∃ rest, bytes.size - position = rest := ⟨_, rfl⟩
  induction rest generalizing position before with
  | zero =>
    have finished : ¬ position < bytes.size := by omega
    rw [ByteArray.toList.loop.eq_1, if_neg finished, List.drop_eq_nil_of_le (by omega),
      List.append_nil]
  | succ rest inductionHypothesis =>
    have more : position < bytes.data.toList.length := by omega
    have read : bytes.get! position = bytes.data.toList[position] := by
      rw [Array.getElem_toList]
      exact getElem!_pos bytes.data position (by simpa using more)
    rw [ByteArray.toList.loop.eq_1, if_pos (by omega),
      inductionHypothesis _ _ (by omega) (by omega), read, List.drop_eq_getElem_cons more]
    simp

/-- A character of ASCII is one byte. -/
theorem encoded_ascii {c : Char} (ascii : c.toNat < 128) :
    String.utf8EncodeChar c = [UInt8.ofNat c.toNat] := by
  have short : c.val.toNat ≤ 127 := Nat.le_of_lt_succ ascii
  rw [String.utf8EncodeChar, if_pos short]
  rfl

namespace Timestamp

/-- The bytes of a text of ASCII are its characters. -/
theorem bytes_of_ascii {text : String} (ascii : ∀ c ∈ text.toList, c.toNat < 128) :
    bytesOf text = text.toList := by
  have encoded : text.toUTF8.toList = text.toList.flatMap String.utf8EncodeChar := by
    conv_lhs => rw [← String.ofList_toList (s := text)]
    rw [ByteArray.toList, byte_loop_eq _ _ _ (Nat.zero_le _)]
    show [] ++ List.drop 0 (List.toByteArray _).data.toList = _
    rw [List.data_toByteArray]
    simp
  rw [bytesOf, encoded]
  generalize text.toList = letters at ascii
  induction letters with
  | nil => rfl
  | cons c rest inductionHypothesis =>
    have first := ascii c (by simp)
    have small : (UInt8.ofNat c.toNat).toNat = c.toNat := by
      simp
      omega
    have later := inductionHypothesis fun other member => ascii other (by simp [member])
    rw [List.flatMap_cons, encoded_ascii first, List.map_append, later]
    simp [small]

/-- No half of a surrogate pair is ASCII. -/
theorem whole_of_ascii {text : String} (ascii : ∀ c ∈ text.toList, c.toNat < 128) :
    Text.isWhole text = true := by
  rw [Text.isWhole, List.all_eq_true]
  intro c member
  have low := ascii c member
  have noHalf : ¬ (Text.firstStray ≤ c.toNat ∧ c.toNat < Text.firstStray + Text.halfCount) := by
    simp only [Text.firstStray]
    omega
  simp [Text.half?, noHalf]

/-! ## Reading what was written -/

/-- The digits of a number, so many at least. -/
def digitsOf (width number : Nat) : List Char := padLeft width (Nat.toDigits 10 number)

/-- An offset of whole minutes and less than a day, or none. -/
def WholeMinutes (offset : Option Int) : Prop :=
  ∀ size ∈ offset, ∃ minutes : Int, size = minutes * 60000000 ∧ minutes.natAbs < 1440

/-- A time whose year has a number of at most four digits, and whose offset, if there is one, is
made of whole minutes. -/
structure Writable (time : Timestamp) : Prop where
  year : 1 ≤ time.civil.year ∧ time.civil.year ≤ 9999
  offset : WholeMinutes time.offset

/-- A date is read where it was written, whatever follows it. Its year has to have four digits. -/
theorem read_date_written {year : Int} {month day : Nat} (isDate : Civil.IsDate year month day)
    (lower : 1 ≤ year) (upper : year ≤ 9999) (rest : List Char) :
    readDate (digitsOf 4 year.toNat ++ '-' :: (digitsOf 2 month ++ '-' ::
      (digitsOf 2 day ++ rest))) = .ok ((year, month, day), rest) := by
  have monthUpper := isDate.inYear.2
  have dayUpper : day < 100 := by
    have longest : Civil.monthLength year month ≤ 31 := Civil.month_length_le year month
    have inMonth := isDate.inMonth.2
    omega
  obtain ⟨y1, y2, y3, y4, yearDigits, yearAscii, yearValue⟩ :=
    Text.four_digits (show year.toNat < 10000 by omega)
  obtain ⟨m1, m2, monthDigits, monthValue⟩ := Text.two_digits (show month < 100 by omega)
  obtain ⟨d1, d2, dayDigits, dayValue⟩ := Text.two_digits dayUpper
  have sameYear : (Text.natOfDigits [y1, y2, y3, y4] : Int) = year := by
    rw [yearValue]
    omega
  have monthFits : ¬ (month = 0 ∨ 12 < month) := by
    have inYear := isDate.inYear
    omega
  have dayFits : ¬ (day = 0 ∨ Civil.monthLength year month < day) := by
    have inMonth := isDate.inMonth
    omega
  simp only [digitsOf, yearDigits, monthDigits, dayDigits, List.cons_append, List.nil_append,
    readDate, yearAscii, monthValue, dayValue, sameYear]
  simp [monthFits, dayFits]
  rfl

/-- No part of a time of day goes on with these characters. -/
def EndsSeconds (rest : List Char) : Prop :=
  ∀ c ∈ rest.head?, c ≠ '.' ∧ c ≠ ',' ∧ Text.isAsciiDigit c = false

/-- The digits before such characters are all that is taken. -/
theorem EndsSeconds.digits {rest digits : List Char} (ends : EndsSeconds rest)
    (ascii : ∀ c ∈ digits, Text.isAsciiDigit c = true) :
    (digits ++ rest).takeWhile Text.isAsciiDigit = digits ∧
      (digits ++ rest).dropWhile Text.isAsciiDigit = rest := by
  rw [List.takeWhile_append_of_pos ascii, List.dropWhile_append_of_pos ascii]
  cases rest with
  | nil => simp
  | cons next others =>
    obtain ⟨_, _, noDigit⟩ := ends next rfl
    simp [noDigit]

/-- Six digits of a fraction are its microseconds. -/
theorem fraction_of_six {microsecond : Nat} {digits : List Char}
    (spells : Text.Spells 6 microsecond digits) : fractionOf digits = microsecond := by
  have scale : tenTo (6 - digits.length) = 1 := by
    rw [spells.length]
    rfl
  rw [fractionOf, List.take_of_length_le (le_of_eq spells.length), scale, spells.value, Nat.mul_one]

/-- Seconds and their fraction are read where they were written. -/
theorem read_seconds_written {second microsecond : Nat} (secondFits : second < 60)
    (microsecondFits : microsecond < 1000000) {rest : List Char} (ends : EndsSeconds rest) :
    readSeconds? (':' :: (digitsOf 2 second ++ ((fractionText microsecond).toList ++ rest))) =
      some ((second, microsecond), rest) := by
  obtain ⟨s1, s2, secondDigits, secondValue⟩ :=
    Text.two_digits (show second < 100 by omega)
  have secondShown : ¬ 59 < second := by omega
  by_cases whole : microsecond = 0
  · subst whole
    cases rest with
    | nil => simp [digitsOf, secondDigits, readSeconds?, secondValue, fractionText, secondShown]
    | cons next others =>
      obtain ⟨noPoint, noComma, _⟩ := ends next rfl
      simp [digitsOf, secondDigits, readSeconds?, secondValue, fractionText, secondShown, noPoint,
        noComma]
  · have spells := Text.pad_left_spells (by decide)
      (show microsecond < 10 ^ 6 from microsecondFits)
    obtain ⟨taken, left⟩ := ends.digits spells.ascii
    have filled : padLeft 6 (Nat.toDigits 10 microsecond) ≠ [] := by
      intro empty
      have six := spells.length
      rw [empty] at six
      cases six
    simp [digitsOf, secondDigits, readSeconds?, secondValue, fractionText, secondShown, whole,
      padded, taken, left, filled, fraction_of_six spells]

/-- The offset of a time as it is written. -/
def offsetWritten (offset : Option Int) : List Char :=
  ((offset.map shortOffsetText).getD "").toList

/-- Seconds are written as hours and minutes. -/
theorem minutes_text_eq (seconds : Nat) : (minutesText seconds).toList =
    digitsOf 2 (seconds / 3600) ++ ':' :: digitsOf 2 (seconds / 60 % 60) := by
  simp [minutesText, padded, digitsOf]

/-- An offset of whole minutes is written with its sign, hours and minutes, if it is not zero. -/
theorem offset_written_eq (minutes : Int) :
    offsetWritten (some (minutes * 60000000)) =
      if minutes = 0 then ['Z']
      else (if minutes < 0 then '-' else '+') ::
        (digitsOf 2 (minutes.natAbs / 60) ++ ':' :: digitsOf 2 (minutes.natAbs % 60)) := by
  have seconds : (2 * (minutes * 60000000).natAbs + 1000000) / 2000000 = minutes.natAbs * 60 := by
    omega
  have hours : minutes.natAbs * 60 / 3600 = minutes.natAbs / 60 := by omega
  have inHour : minutes.natAbs * 60 / 60 % 60 = minutes.natAbs % 60 := by omega
  have sign : (signText (minutes * 60000000)).toList = [if minutes < 0 then '-' else '+'] := by
    have sameSign : minutes * 60000000 < 0 ↔ minutes < 0 := by omega
    simp only [signText, sameSign]
    split <;> simp
  rw [offsetWritten, Option.map_some, Option.getD_some, shortOffsetText, seconds]
  by_cases zero : minutes = 0
  · simp [zero]
  · rw [if_neg zero, if_neg (show minutes.natAbs * 60 ≠ 0 by omega), String.toList_append, sign,
      minutes_text_eq, hours, inHour]
    rfl

/-- Hours and minutes are read with the sign before them. -/
theorem signed_offset_written (sign : Int) {size : Nat} (short : size < 1440) :
    signedOffset? sign (digitsOf 2 (size / 60) ++ ':' :: digitsOf 2 (size % 60)) =
      some (sign * (size * 60000000 : Nat)) := by
  obtain ⟨h1, h2, hourDigits, hourValue⟩ := Text.two_digits (show size / 60 < 100 by omega)
  obtain ⟨m1, m2, minuteDigits, minuteValue⟩ := Text.two_digits (show size % 60 < 100 by omega)
  have fits : ¬ (59 < size % 60 ∨ 23 < size / 60) := by omega
  have total : (size / 60 * 3600 + size % 60 * 60) * 1000000 = size * 60000000 := by omega
  simp only [digitsOf, hourDigits, minuteDigits, List.cons_append, List.nil_append, signedOffset?,
    offsetMinutes?, hourValue, minuteValue, Option.bind_eq_bind, Option.bind_some, if_neg fits,
    total, gt_iff_lt, Option.pure_def]

/-- Offsets are read where they were written, at the end of a text. -/
theorem read_offset_written {time : Timestamp} (writable : time.Writable) :
    readOffset? (offsetWritten time.offset) = some time.offset := by
  cases given : time.offset with
  | none => rfl
  | some offset =>
    obtain ⟨minutes, rfl, short⟩ := writable.offset offset given
    rw [offset_written_eq]
    by_cases zero : minutes = 0
    · subst zero
      rfl
    · by_cases negative : minutes < 0
      · have size : -1 * ((minutes.natAbs * 60000000 : Nat) : Int) = minutes * 60000000 := by omega
        rw [if_neg zero, if_pos negative, readOffset?, signed_offset_written _ short, size]
        rfl
      · have size : 1 * ((minutes.natAbs * 60000000 : Nat) : Int) = minutes * 60000000 := by omega
        rw [if_neg zero, if_neg negative, readOffset?, signed_offset_written _ short, size]
        rfl

/-- What follows the seconds is an offset or nothing. -/
theorem offset_ends_seconds {time : Timestamp} (writable : time.Writable) :
    EndsSeconds (offsetWritten time.offset) := by
  intro c first
  cases given : time.offset with
  | none =>
    rw [given] at first
    cases first
  | some offset =>
    obtain ⟨minutes, rfl, _⟩ := writable.offset offset given
    rw [given, offset_written_eq] at first
    split at first
    · cases first
      decide
    · split at first
      · cases first
        decide
      · cases first
        decide

/-- The time of day is written as hours, minutes and seconds. -/
theorem clock_text_eq (civil : Civil) : (clockText civil).toList =
    digitsOf 2 civil.hour ++ ':' :: (digitsOf 2 civil.minute ++ ':' ::
      digitsOf 2 civil.second) := by
  simp [clockText, padded, digitsOf]

/-- The time of day and the offset are read where they were written. -/
theorem read_clock_written {time : Timestamp} (writable : time.Writable)
    (reading : Civil.IsReading time.civil) :
    readClock? ((clockText time.civil).toList ++ ((fractionText time.civil.microsecond).toList ++
      offsetWritten time.offset)) =
        some ((time.civil.hour, time.civil.minute, time.civil.second, time.civil.microsecond),
          time.offset) := by
  have hourFits := reading.hour
  have minuteFits := reading.minute
  obtain ⟨h1, h2, hourDigits, hourValue⟩ :=
    Text.two_digits (show time.civil.hour < 100 by omega)
  obtain ⟨m1, m2, minuteDigits, minuteValue⟩ :=
    Text.two_digits (show time.civil.minute < 100 by omega)
  have hourShown : ¬ 23 < time.civil.hour := by omega
  have minuteShown : ¬ 59 < time.civil.minute := by omega
  have seconds :=
    read_seconds_written reading.second reading.microsecond (offset_ends_seconds writable)
  have shown : (clockText time.civil).toList =
      h1 :: h2 :: ':' :: m1 :: m2 :: ':' :: digitsOf 2 time.civil.second := by
    rw [clock_text_eq, digitsOf, hourDigits, digitsOf, minuteDigits]
    rfl
  simp [shown, readClock?, hourValue, minuteValue, hourShown, minuteShown, seconds,
    read_offset_written writable]

/-- A time is written as its date, the time of day and the offset. -/
theorem record_text_eq (time : Timestamp) :
    (recordText time).toList =
      digitsOf 4 time.civil.year.toNat ++ '-' :: (digitsOf 2 time.civil.month ++ '-' ::
        (digitsOf 2 time.civil.day ++ 'T' :: ((clockText time.civil).toList ++
          ((fractionText time.civil.microsecond).toList ++ offsetWritten time.offset)))) := by
  simp [recordText, wallText, dateText, dateOf, padded, digitsOf, offsetWritten]

/-- A time is read where it was written in full. -/
theorem read_full_written {time : Timestamp} (writable : time.Writable) :
    readFull? (recordText time).toList = some time := by
  have spec := Civil.of_microseconds_spec time.wall
  have reading : Civil.IsReading time.civil := spec.1
  have total : time.civil.toMicroseconds = time.wall := spec.2
  have date := read_date_written reading.date writable.year.1 writable.year.2
  have clock := read_clock_written writable reading
  simp [readFull?, record_text_eq, date, clock, total]

/-- Digits are written in ASCII, whatever width they are filled up to. -/
theorem digits_ascii (width number : Nat) : ∀ c ∈ digitsOf width number, c.toNat < 128 := by
  intro c member
  rcases List.mem_append.mp member with zero | digit
  · rw [List.eq_of_mem_replicate zero]
    decide
  · have isDigit := Nat.isDigit_of_mem_toDigits (by decide) (by decide) digit
    rw [← Text.ascii_digit_iff] at isDigit
    have small := Text.digit_le c isDigit
    omega

/-- A time of day is written in ASCII. -/
theorem clock_ascii (civil : Civil) : ∀ c ∈ (clockText civil).toList, c.toNat < 128 := by
  simp only [clock_text_eq, List.forall_mem_append, List.forall_mem_cons]
  exact ⟨digits_ascii _ _, by decide, digits_ascii _ _, by decide, digits_ascii _ _⟩

/-- So is a fraction of a second, or the absence of one. -/
theorem fraction_ascii (microsecond : Nat) :
    ∀ c ∈ (fractionText microsecond).toList, c.toNat < 128 := by
  unfold fractionText
  split
  · simp
  · have shown : ("." ++ padded 6 microsecond).toList = '.' :: digitsOf 6 microsecond := by
      simp [padded, digitsOf]
    rw [shown, List.forall_mem_cons]
    exact ⟨by decide, digits_ascii _ _⟩

/-- The sign of an offset is written in ASCII. -/
theorem sign_ascii (offset : Int) : ∀ c ∈ (signText offset).toList, c.toNat < 128 := by
  unfold signText
  split <;> simp

/-- So are the minutes of an offset, and its seconds where it has any. -/
theorem minutes_ascii (seconds : Nat) : ∀ c ∈ (minutesText seconds).toList, c.toNat < 128 := by
  simp only [minutes_text_eq, List.forall_mem_append, List.forall_mem_cons]
  exact ⟨digits_ascii _ _, by decide, digits_ascii _ _⟩

/-- An offset, or the letter for universal time, is written in ASCII. -/
theorem offset_ascii (offset : Option Int) : ∀ c ∈ offsetWritten offset, c.toNat < 128 := by
  cases offset with
  | none => simp [offsetWritten]
  | some offset =>
    rw [offsetWritten, Option.map_some, Option.getD_some, shortOffsetText]
    generalize (2 * offset.natAbs + 1000000) / 2000000 = seconds
    split
    · simp
    · rw [String.toList_append, List.forall_mem_append]
      exact ⟨sign_ascii offset, minutes_ascii seconds⟩

/-- Times are written in ASCII. -/
theorem record_ascii (time : Timestamp) : ∀ c ∈ (recordText time).toList, c.toNat < 128 := by
  simp only [record_text_eq, List.forall_mem_append, List.forall_mem_cons]
  exact ⟨digits_ascii _ _, by decide, digits_ascii _ _, by decide, digits_ascii _ _, by decide,
    clock_ascii _, fraction_ascii _, offset_ascii _⟩

/-- A written time passes the check for times as the time that was written. -/
theorem Writable.check {time : Timestamp} (writable : time.Writable) :
    Check.time (.text (recordText time)) = .valid time := by
  have ascii := record_ascii time
  have read : ofText (recordText time) = .ok time := by
    rw [ofText, bytes_of_ascii ascii, read_full_written writable]
  have numbered : time.inYearZero = false := by
    have positive := writable.year.1
    simp only [inYearZero, decide_eq_false_iff_not]
    omega
  simp [Check.time, Check.whole, whole_of_ascii ascii, read, Check.numberedYear, numbered]

end Timestamp

end AdRules

import AdRules.Proofs.WrittenTimes

/-!
# Checked times

Every time that passes the check for times can be written and read back, whether it was given as a
text or as a count; one that is given as it is has to be such a time itself. The year of a text has
four digits and that of a count is bounded by the check of its range; the year without a number is
refused afterwards.
-/

namespace AdRules.Timestamp

/-- A time whose year is not too late, and whose offset, if there is one, is made of whole minutes.
-/
structure InRange (time : Timestamp) : Prop where
  year : time.civil.year ≤ 9999
  offset : WholeMinutes time.offset

/-! ## Offsets and fractions -/

/-- A time without an offset has no offset that could fail to be one of whole minutes. -/
theorem no_offset : WholeMinutes none := by
  intro size given
  cases given

/-- Universal time is no minutes ahead of itself. -/
theorem universal_offset : WholeMinutes (some 0) := by
  intro size given
  cases given
  exact ⟨0, by decide, by decide⟩

/-- A fraction is less than a second. -/
theorem fraction_of_lt {digits : List Char} (ascii : ∀ c ∈ digits, Text.isAsciiDigit c = true) :
    fractionOf digits < 1000000 := by
  have taken : Text.natOfDigits (digits.take 6) < 10 ^ (digits.take 6).length :=
    Text.nat_of_digits_lt fun c member => ascii c (List.mem_of_mem_take member)
  have positive : 0 < tenTo (6 - digits.length) := Nat.pow_pos (by decide)
  calc fractionOf digits
      < 10 ^ (digits.take 6).length * tenTo (6 - digits.length) :=
        Nat.mul_lt_mul_of_pos_right taken positive
    _ = 10 ^ ((digits.take 6).length + (6 - digits.length)) := (pow_add _ _ _).symm
    _ = 1000000 := by
      rw [List.length_take, show min 6 digits.length + (6 - digits.length) = 6 by omega]
      rfl

/-! ## Parts of texts -/

/-- What is read in spite of a reason for refusal does not have it. -/
theorem not_refused {α : Type} {refused : Prop} [Decidable refused] {reason : Fault}
    {reading : Except Fault α} {result : α}
    (read : (if refused then .error reason else reading) = .ok result) :
    ¬ refused ∧ reading = .ok result := by
  split at read
  · cases read
  · next accepted => exact ⟨accepted, read⟩

/-- A date that is read exists, in a year of four digits. -/
theorem read_date_is_date {bytes rest : List Char} {year : Int} {month day : Nat}
    (read : readDate bytes = .ok ((year, month, day), rest)) :
    Civil.IsDate year month day ∧ year ≤ 9999 := by
  unfold readDate at read
  split at read
  · simp only [bind, Except.bind, pure, Except.pure, throw, throwThe, MonadExceptOf.throw] at read
    obtain ⟨yearDigits, read⟩ := not_refused read
    obtain ⟨-, read⟩ := not_refused read
    split at read
    · obtain ⟨-, read⟩ := not_refused read
      split at read
      · obtain ⟨monthFits, read⟩ := not_refused read
        obtain ⟨dayFits, read⟩ := not_refused read
        cases read
        simp only [Bool.not_eq_true', Bool.not_eq_false, List.all_eq_true] at yearDigits
        have short := Text.nat_of_digits_lt yearDigits
        simp only [List.length_cons, List.length_nil] at short
        exact ⟨⟨by omega, by omega⟩, by omega⟩
      · cases read
    · cases read
  · cases read

/-- What is read in spite of a reason for failing does not have it. -/
theorem not_failed {α : Type} {failed : Prop} [Decidable failed] {reading : Option α} {result : α}
    (read : (if failed then none else reading) = some result) :
    ¬ failed ∧ reading = some result := by
  split at read
  · cases read
  · next accepted => exact ⟨accepted, read⟩

/-- Seconds that are read are those of a minute; there is no leap second. Digits of a fraction after
the sixth are dropped, so the fraction stays below a second. -/
theorem read_seconds_fit {bytes rest : List Char} {second fraction : Nat}
    (read : readSeconds? bytes = some ((second, fraction), rest)) :
    second < 60 ∧ fraction < 1000000 := by
  unfold readSeconds? at read
  split at read
  · simp only [Option.bind_eq_bind, Option.bind_eq_some_iff, Option.failure_eq_none,
      Option.bind_none, Option.pure_def] at read
    obtain ⟨number, isNumber, read⟩ := read
    obtain ⟨numberFits, read⟩ := not_failed read
    split at read
    · split at read
      · obtain ⟨-, read⟩ := not_failed read
        cases read
        refine ⟨by omega, fraction_of_lt ?_⟩
        intro c member
        exact List.all_eq_true.mp List.all_takeWhile c member
      · cases read
        exact ⟨by omega, by decide⟩
    · cases read
      exact ⟨by omega, by decide⟩
  · cases read
  · cases read
    decide

/-- An offset is read in hours and minutes, so it is one of whole minutes under either sign. -/
theorem signed_offset_minutes {sign : Int} (unit : sign = 1 ∨ sign = -1) {bytes : List Char}
    {size : Int} (read : signedOffset? sign bytes = some size) : WholeMinutes (some size) := by
  unfold signedOffset? at read
  split at read
  · simp only [Option.bind_eq_bind, Option.bind_eq_some_iff, Option.failure_eq_none,
      Option.bind_none, Option.pure_def] at read
    obtain ⟨hours, _, minutes, _, read⟩ := read
    obtain ⟨fits, read⟩ := not_failed read
    cases read
    intro size given
    cases given
    refine ⟨sign * (hours * 60 + minutes : Nat), ?_, ?_⟩ <;> rcases unit with rfl | rfl <;> omega
  · cases read

/-- So is every offset that is read, including none and the letter for universal time. -/
theorem read_offset_minutes {bytes : List Char} {offset : Option Int}
    (read : readOffset? bytes = some offset) : WholeMinutes offset := by
  unfold readOffset? at read
  split at read
  · cases read
    exact no_offset
  · cases read
    exact universal_offset
  · cases read
    exact universal_offset
  · obtain ⟨size, isRead, rfl⟩ := Option.map_eq_some_iff.mp read
    exact signed_offset_minutes (.inl rfl) isRead
  · obtain ⟨size, isRead, rfl⟩ := Option.map_eq_some_iff.mp read
    exact signed_offset_minutes (.inr rfl) isRead
  · obtain ⟨size, isRead, rfl⟩ := Option.map_eq_some_iff.mp read
    exact signed_offset_minutes (.inr rfl) isRead
  · cases read

/-- The parts of a time of day that is read are in their ranges, and its offset is one of whole
minutes. -/
theorem read_clock_fits {bytes : List Char} {hour minute second fraction : Nat}
    {offset : Option Int}
    (read : readClock? bytes = some ((hour, minute, second, fraction), offset)) :
    hour < 24 ∧ minute < 60 ∧ second < 60 ∧ fraction < 1000000 ∧ WholeMinutes offset := by
  unfold readClock? at read
  split at read
  · simp only [Option.bind_eq_bind, Option.bind_eq_some_iff, Option.failure_eq_none,
      Option.bind_none, Option.pure_def] at read
    obtain ⟨hour, _, minute, _, read⟩ := read
    obtain ⟨fits, read⟩ := not_failed read
    obtain ⟨seconds, isSeconds, read⟩ := Option.bind_eq_some_iff.mp read
    obtain ⟨offset, isOffset, read⟩ := Option.bind_eq_some_iff.mp read
    cases read
    obtain ⟨secondFits, fractionFits⟩ := read_seconds_fit isSeconds
    exact ⟨by omega, by omega, secondFits, fractionFits, read_offset_minutes isOffset⟩
  · cases read

/-! ## Readings -/

/-- A date in a year of four digits with a time of day is not too late. -/
theorem in_range_of_reading {civil : Civil} (reading : Civil.IsReading civil)
    (upper : civil.year ≤ 9999) {offset : Option Int} (minutes : WholeMinutes offset) :
    InRange ⟨civil.toMicroseconds, offset⟩ where
  year := by
    rw [Timestamp.civil, Civil.year_of_microseconds reading]
    exact Civil.year_le (Civil.days_le reading.date upper)
  offset := minutes

/-- A date with a time of day is read as a time in range. -/
theorem read_full_in_range {bytes : List Char} {time : Timestamp}
    (read : readFull? bytes = some time) : time.InRange := by
  unfold readFull? at read
  split at read
  · next year month day separator rest isDateTime =>
    obtain ⟨isDate, upper⟩ := read_date_is_date isDateTime
    split at read
    · obtain ⟨⟨⟨hour, minute, second, fraction⟩, offset⟩, isClock, rfl⟩ :=
        Option.map_eq_some_iff.mp read
      obtain ⟨hourFits, minuteFits, secondFits, fractionFits, minutes⟩ := read_clock_fits isClock
      exact in_range_of_reading ⟨isDate, hourFits, minuteFits, secondFits, fractionFits⟩ upper
        minutes
    · cases read
  · cases read

/-- A count is read as a time in range. -/
theorem of_microseconds_in_range {total : Int} {time : Timestamp}
    (read : ofMicroseconds total = .ok time) : time.InRange := by
  simp only [ofMicroseconds] at read
  obtain ⟨-, read⟩ := not_refused read
  obtain ⟨upper, read⟩ := not_refused read
  cases read
  refine ⟨?_, universal_offset⟩
  have days : total.fdiv 1000000 / 86400 ≤ Civil.lastDay := by
    rw [Civil.last_day_eq]
    omega
  simpa (disch := decide) only [Timestamp.civil, Civil.ofMicroseconds,
    Int.fdiv_eq_ediv_of_nonneg] using Civil.year_le days

/-- A count in whole units is read as a moment only if the calendar has it. -/
theorem of_unix_in_range {count : Int} {time : Timestamp} (read : ofUnix count = .ok time) :
    time.InRange :=
  of_microseconds_in_range read

/-- So is a count with a fraction, which is rounded to a microsecond first. -/
theorem of_seconds_in_range {count : Double} {time : Timestamp}
    (read : ofSeconds count = .ok time) : time.InRange := by
  unfold ofSeconds at read
  split at read
  · cases read
  · cases read
  · cases read
  · exact of_microseconds_in_range read

/-- A count of either kind gives a moment of the calendar, or is refused. -/
theorem of_count_in_range {count : Count} {time : Timestamp} (read : ofCount count = .ok time) :
    time.InRange := by
  cases count with
  | whole value => exact of_unix_in_range read
  | fractional value => exact of_seconds_in_range read

/-- A date alone is read as a time in range, and so is what is refused as a date but is a count. -/
theorem read_date_only_in_range {bytes : List Char} {time : Timestamp}
    (read : readDateOnly bytes = .ok time) : time.InRange := by
  cases parsed : readDate bytes with
  | ok parts =>
    obtain ⟨⟨year, month, day⟩, rest⟩ := parts
    obtain ⟨isDate, upper⟩ := read_date_is_date parsed
    cases rest with
    | nil =>
      simp only [readDateOnly, parsed] at read
      cases read
      exact in_range_of_reading ⟨isDate, by simp, by simp, by simp, by simp⟩ upper no_offset
    | cons _ _ =>
      simp only [readDateOnly, parsed] at read
      split at read
      · exact of_unix_in_range read
      · cases read
  | error reason =>
    simp only [readDateOnly, parsed] at read
    split at read
    · exact of_unix_in_range read
    · cases read

/-- A text is read as a time in range. -/
theorem of_text_in_range {text : String} {time : Timestamp} (read : ofText text = .ok time) :
    time.InRange := by
  simp only [ofText] at read
  split at read
  · next isFull =>
    cases read
    exact read_full_in_range isFull
  · split at read
    · next isCount =>
      cases read
      obtain ⟨count, _, isRead⟩ := Option.map_eq_some_iff.mp isCount
      exact of_count_in_range isRead
    · exact read_date_only_in_range read

/-! ## The check -/

/-- A time in range whose year has a number can be written. -/
theorem InRange.numbered {time result : Timestamp} (inRange : time.InRange) {input : Value}
    (valid : Check.numberedYear input time = .valid result) : result.Writable := by
  unfold Check.numberedYear at valid
  split at valid
  · cases valid
  · next numbered =>
    cases valid
    simp only [inYearZero, decide_eq_true_eq] at numbered
    exact ⟨⟨by omega, inRange.year⟩, inRange.offset⟩

/-- A time that passes the check can be written, if it was not given as it is. -/
theorem checked_writable {input : Value} {time : Timestamp}
    (given : ∀ moment, input = .time moment → moment.Writable)
    (valid : Check.time input = .valid time) : time.Writable := by
  have counted : ∀ {reading : Except Fault Timestamp},
      (∀ {moment}, reading = .ok moment → moment.InRange) →
        Check.countedTime input reading = .valid time → time.Writable := by
    intro reading inRange valid
    unfold Check.countedTime at valid
    split at valid
    · exact (inRange rfl).numbered valid
    · cases valid
  cases input with
  | time moment =>
    cases valid
    exact given _ rfl
  | int count =>
    simp only [Check.time] at valid
    split at valid
    · exact counted of_unix_in_range valid
    · split at valid
      · exact counted of_seconds_in_range valid
      · cases valid
  | float count => exact counted of_seconds_in_range valid
  | text content =>
    simp only [Check.time, Check.whole] at valid
    split at valid
    · split at valid
      · next isRead => exact (of_text_in_range isRead).numbered valid
      · cases valid
    · cases valid
  | null | bool _ | list _ | record _ => cases valid

end AdRules.Timestamp

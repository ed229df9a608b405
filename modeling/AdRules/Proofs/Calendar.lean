import AdRules.Timestamp
import Mathlib.Tactic.IntervalCases

/-!
# The calendar

Days are counted in eras of 400 years, whose years begin in March. A day of an era belongs to one
year of it, and within that to one month; so a count of days names one date, a date that exists, and
counting the days to that date gives the count again. The same holds of microseconds and what a
clock shows.
-/

namespace AdRules.Civil

/-! ## Years of an era -/

/-- The year of an era that a day of it belongs to. -/
def yearOfEra (day : Int) : Int := (day - day / 1460 + day / 36524 - day / 146096) / 365

/-- The first day of a year of an era. -/
def firstDay (year : Int) : Int := 365 * year + year / 4 - year / 100

section Eras

variable {day : Int} (lower : 0 ≤ day) (upper : day < 146097)

include lower upper

/-- The last day of an era is one too many for its last century; any other day is in one of the four
centuries. -/
theorem century_cases : day = 146096 ∨ day / 146096 = 0 ∧
    (day / 36524 = 0 ∨ day / 36524 = 1 ∨ day / 36524 = 2 ∨ day / 36524 = 3) := by
  omega

/-- An era has four hundred years, whichever of its days is asked for. -/
theorem year_of_era_bounds : 0 ≤ yearOfEra day ∧ yearOfEra day ≤ 399 := by
  unfold yearOfEra
  omega

/-- The century of the year is the century of the day. -/
theorem year_century : yearOfEra day / 100 = day / 36524 - day / 146096 := by
  rcases century_cases lower upper with rfl | ⟨noLast, century⟩
  · decide
  · unfold yearOfEra
    rw [noLast]
    rcases century with is | is | is | is <;> rw [is] <;> omega

/-- A day comes no earlier than its year begins, and a year has at most 366 days. -/
theorem in_year : firstDay (yearOfEra day) ≤ day ∧ day ≤ firstDay (yearOfEra day) + 365 := by
  unfold firstDay
  rw [year_century lower upper]
  rcases century_cases lower upper with rfl | ⟨noLast, century⟩
  · decide
  · unfold yearOfEra
    rw [noLast]
    rcases century with is | is | is | is <;> rw [is] <;> omega

/-- Only a year that ends in a leap February has 366 days. -/
theorem leap_of_last (isLast : day = firstDay (yearOfEra day) + 365) :
    isLeap (yearOfEra day + 1) = true := by
  have inCentury := year_century lower upper
  obtain ⟨year, is⟩ : ∃ year, yearOfEra day = year := ⟨_, rfl⟩
  rw [is] at isLast inCentury ⊢
  rw [yearOfEra] at is
  have everyFourth : (year + 1) % 4 = 0 := by
    have remainder : year % 4 = 0 ∨ year % 4 = 1 ∨ year % 4 = 2 ∨ year % 4 = 3 := by omega
    rw [firstDay] at isLast
    rcases century_cases lower upper with rfl | ⟨noLast, century⟩
    · omega
    · rw [noLast] at is inCentury
      rcases century with century | century | century | century <;>
        rw [century] at is inCentury <;>
          rcases remainder with remainder | remainder | remainder | remainder <;> omega
  have century : (year + 1) % 100 ≠ 0 ∨ (year + 1) % 400 = 0 := by
    rw [firstDay] at isLast
    by_contra neither
    rcases century_cases lower upper with rfl | ⟨noLast, century⟩
    · omega
    · rw [noLast] at is inCentury
      rcases century with century | century | century | century <;>
        rw [century] at is inCentury <;> omega
  simpa [isLeap, everyFourth] using century

end Eras

/-- Every day is a day of some era; the start of 1970 is day 719468 of all. -/
theorem in_era (days : Int) :
    ∃ era day, 0 ≤ day ∧ day < 146097 ∧ days = era * 146097 + day - 719468 :=
  ⟨(days + 719468) / 146097, (days + 719468) % 146097, by omega, by omega, by omega⟩

/-! ## Dates -/

/-- A day of a month of the calendar. -/
structure IsDate (year : Int) (month day : Nat) : Prop where
  inYear : 1 ≤ month ∧ month ≤ 12
  inMonth : 1 ≤ day ∧ day ≤ monthLength year month

/-- Leap years come round with the eras. -/
theorem is_leap_era (year era : Int) : isLeap (year + era * 400) = isLeap year := by
  have fourth : (year + era * 400) % 4 = year % 4 := by omega
  have hundredth : (year + era * 400) % 100 = year % 100 := by omega
  have whole : (year + era * 400) % 400 = year % 400 := by omega
  simp only [isLeap, fourth, hundredth, whole]

/-- The month and the day that a day of a year is, counted from March. -/
def monthDay (dayOfYear : Int) : Nat × Nat :=
  let monthIndex := (5 * dayOfYear + 2) / 153
  ((if monthIndex < 10 then monthIndex + 3 else monthIndex - 9).toNat,
    (dayOfYear - (153 * monthIndex + 2) / 5 + 1).toNat)

/-- January and February belong to the calendar's next year. -/
def calendarYear (year : Int) (month : Nat) : Int := year + if month ≤ 2 then 1 else 0

/-- The date of a day of an era. -/
theorem date_of_eq (era : Int) {day : Int} (lower : 0 ≤ day) (upper : day < 146097) :
    dateOf (era * 146097 + day - 719468) =
      (calendarYear (yearOfEra day + era * 400) (monthDay (day - firstDay (yearOfEra day))).1,
        monthDay (day - firstDay (yearOfEra day))) := by
  have shifted : era * 146097 + day - 719468 + 719468 = era * 146097 + day := by omega
  have sameEra : (era * 146097 + day) / 146097 = era := by omega
  have sameDay : era * 146097 + day - era * 146097 = day := by omega
  simp (disch := decide) only [dateOf, shifted, Int.fdiv_eq_ediv_of_nonneg, sameEra, sameDay]
  rfl

/-- Days up to a date of a year of an era. -/
theorem days_of_eq (era : Int) {year : Int} (lower : 0 ≤ year) (upper : year ≤ 399)
    (month day : Nat) :
    daysOf (calendarYear (year + era * 400) month) month day =
      era * 146097 + firstDay year +
        ((153 * (if month > 2 then (month : Int) - 3 else (month : Int) + 9) + 2) / 5 + day - 1) -
        719468 := by
  have shifted : (if month ≤ 2 then calendarYear (year + era * 400) month - 1
      else calendarYear (year + era * 400) month) = year + era * 400 := by
    unfold calendarYear
    split <;> omega
  have sameEra : (year + era * 400) / 400 = era := by omega
  have sameYear : year + era * 400 - era * 400 = year := by omega
  simp (disch := decide) only [daysOf, shifted, Int.fdiv_eq_ediv_of_nonneg, sameEra, sameYear,
    firstDay]
  omega

/-- The months of a year, counted from March, cover it, and only the last one, which is February,
depends on whether the calendar's year is a leap year. -/
theorem month_day_spec {dayOfYear : Int} (lower : 0 ≤ dayOfYear) (upper : dayOfYear ≤ 365)
    {year : Int} (leap : dayOfYear = 365 → isLeap (year + 1) = true) :
    IsDate (calendarYear year (monthDay dayOfYear).1) (monthDay dayOfYear).1
        (monthDay dayOfYear).2 ∧
      (153 * (if (monthDay dayOfYear).1 > 2 then ((monthDay dayOfYear).1 : Int) - 3
        else ((monthDay dayOfYear).1 : Int) + 9) + 2) / 5 + (monthDay dayOfYear).2 - 1 =
          dayOfYear := by
  obtain ⟨monthIndex, is⟩ : ∃ monthIndex, (5 * dayOfYear + 2) / 153 = monthIndex := ⟨_, rfl⟩
  have first : 0 ≤ monthIndex := by omega
  simp only [monthDay, is]
  have february : monthIndex = 11 ∨ monthIndex ≤ 10 := by omega
  rcases february with rfl | earlier
  · refine ⟨⟨by decide, by omega, ?_⟩, by omega⟩
    by_cases isLast : dayOfYear = 365
    · simp [monthLength, calendarYear, leap isLast, isLast]
    · simp only [monthLength, Int.reduceLT, if_false, Int.reduceSub, Int.reduceToNat, if_true]
      split <;> omega
  · interval_cases monthIndex
    all_goals
      refine ⟨⟨by decide, by omega, ?_⟩, by omega⟩
      simp [monthLength]
      omega

/-- A count of days is the count up to the date that it names, which exists. -/
theorem date_of_days (days : Int) :
    IsDate (dateOf days).1 (dateOf days).2.1 (dateOf days).2.2 ∧
      daysOf (dateOf days).1 (dateOf days).2.1 (dateOf days).2.2 = days := by
  obtain ⟨era, day, lower, upper, rfl⟩ := in_era days
  obtain ⟨yearLower, yearUpper⟩ := year_of_era_bounds lower upper
  obtain ⟨begins, ends⟩ := in_year lower upper
  have leap : day - firstDay (yearOfEra day) = 365 →
      isLeap (yearOfEra day + era * 400 + 1) = true := by
    intro isLast
    rw [add_right_comm, is_leap_era]
    exact leap_of_last lower upper (by omega)
  obtain ⟨isDate, counted⟩ := month_day_spec (by omega) (by omega) leap
  rw [date_of_eq era lower upper]
  refine ⟨isDate, ?_⟩
  rw [days_of_eq era yearLower yearUpper, counted]
  omega

/-! ## The years with four digits -/

/-- The last day of the year 9999. -/
def lastDay : Int := daysOf 9999 12 31

/-- The last day of the calendar as a number, so that bounds on days are found by arithmetic. -/
theorem last_day_eq : lastDay = 2932896 := by
  decide

/-- Up to the last day years have at most four digits. -/
theorem year_le {days : Int} (upper : days ≤ lastDay) : (dateOf days).1 ≤ 9999 := by
  rw [last_day_eq] at upper
  obtain ⟨era, day, dayLower, dayUpper, rfl⟩ := in_era days
  obtain ⟨yearLower, yearUpper⟩ := year_of_era_bounds dayLower dayUpper
  obtain ⟨begins, ends⟩ := in_year dayLower dayUpper
  rw [date_of_eq era dayLower dayUpper, calendarYear]
  by_cases last : era = 24 ∧ yearOfEra day = 399
  · -- The last year of this era ends in February 10000.
    obtain ⟨rfl, isLast⟩ := last
    rw [isLast, firstDay] at begins ends ⊢
    have march : ¬ (monthDay (day - (365 * 399 + 399 / 4 - 399 / 100))).1 ≤ 2 := by
      simp only [monthDay]
      split <;> omega
    rw [if_neg march]
    omega
  · split <;> omega

/-- No month has more than thirty-one days, in whatever year, and also where the month is none. -/
theorem month_length_le (year : Int) (month : Nat) : monthLength year month ≤ 31 := by
  unfold monthLength
  split
  · split <;> omega
  · split
    · omega
    · split <;> omega

/-- Dates in years of four digits come no later than the last day. -/
theorem days_le {year : Int} {month day : Nat} (isDate : IsDate year month day)
    (upper : year ≤ 9999) : daysOf year month day ≤ lastDay := by
  have lengths := month_length_le year month
  obtain ⟨⟨monthLower, monthUpper⟩, dayLower, dayUpper⟩ := isDate
  simp (disch := decide) only [daysOf, Int.fdiv_eq_ediv_of_nonneg, last_day_eq]
  split <;> split <;> omega

/-! ## Times of day -/

/-- A date of the calendar and a time of day. -/
structure IsReading (civil : Civil) : Prop where
  date : IsDate civil.year civil.month civil.day
  hour : civil.hour < 24
  minute : civil.minute < 60
  second : civil.second < 60
  microsecond : civil.microsecond < 1000000

/-- What a clock shows some microseconds after the start of 1970 is a date and a time of day, and
comes so many microseconds after that. -/
theorem of_microseconds_spec (total : Int) :
    IsReading (ofMicroseconds total) ∧ (ofMicroseconds total).toMicroseconds = total := by
  obtain ⟨isDate, counted⟩ := date_of_days (total / 1000000 / 86400)
  have seconds : total / 1000000 - total / 1000000 / 86400 * 86400 = total / 1000000 % 86400 := by
    omega
  have rest : total - total / 1000000 * 1000000 = total % 1000000 := by omega
  simp (disch := decide) only [ofMicroseconds, Int.fdiv_eq_ediv_of_nonneg, seconds, rest]
  constructor
  · constructor
    · exact isDate
    all_goals
      dsimp only
      omega
  · simp only [toMicroseconds, counted]
    omega

/-- The year of what a clock shows is that of its date. -/
theorem year_of_microseconds {civil : Civil} (reading : IsReading civil) :
    (ofMicroseconds civil.toMicroseconds).year =
      (dateOf (daysOf civil.year civil.month civil.day)).1 := by
  have hour := reading.hour
  have minute := reading.minute
  have second := reading.second
  have microsecond := reading.microsecond
  have day : civil.toMicroseconds / 1000000 / 86400 =
      daysOf civil.year civil.month civil.day := by
    simp only [toMicroseconds]
    omega
  simp (disch := decide) only [ofMicroseconds, Int.fdiv_eq_ediv_of_nonneg, day]

end AdRules.Civil

import Mathlib.Algebra.BigOperators.Group.List.Basic
import OrderRetrieval.Calendar.Reading
import OrderRetrieval.Proofs.Calendar.Day

/-!
# Dates of days

Every day of the calendar has a date of the calendar (`Date.isValid_ofDayNumber`), whose number it
is (`Date.dayNumber_ofDayNumber`), so different days have different dates.  A date is read back from
its written form (`Date.read?_isoText`), which as a timestamp is the start of the day
(`Place.read_isoText`).
-/

namespace OrderRetrieval.Calendar

open Number (padded digits digitsValue)

namespace Date

/-! ## Years -/

/-- The days before a year by whole spans of 400, 100, 4 and 1 years. -/
theorem daysBefore_eq {a c q s : Nat} (hc : c ≤ 3) (hq : q ≤ 24) (hs : s ≤ 3) :
    daysBefore (400 * a + 100 * c + 4 * q + s + 1) =
      146097 * a + 36524 * c + 1461 * q + 365 * s := by
  unfold daysBefore
  omega

/-- The fourth of four years is a leap year, unless it ends a century that is not the fourth. -/
theorem isLeap_fourth {a c q : Nat} (hq : q ≤ 24) (h : q = 24 → c = 3) :
    isLeap (400 * a + 100 * c + 4 * q + 3 + 1) = true := by
  simp only [isLeap, Bool.and_eq_true, Bool.or_eq_true, beq_iff_eq, bne_iff_ne]
  omega

theorem sum_monthLengths (leap : Bool) :
    (monthLengths leap).sum = if leap then 366 else 365 := by
  cases leap <;> rfl

theorem lt_sum_monthLengths {a c q s k : Nat} (hq : q ≤ 24) (hk : k ≤ 365)
    (last : k = 365 → s = 3 ∧ (q = 24 → c = 3)) :
    k < (monthLengths (isLeap (400 * a + 100 * c + 4 * q + s + 1))).sum := by
  rw [sum_monthLengths]
  by_cases h : k = 365
  · obtain ⟨rfl, fourth⟩ := last h
    rw [isLeap_fourth hq fourth, h]
    decide
  · split <;> omega

/-- A day falls on a day of the year that starts last before it. -/
theorem exists_year (n : Nat) : ∃ year k, 0 < year ∧ n = daysBefore year + k ∧
    k < (monthLengths (isLeap year)).sum ∧ ofDayNumber n =
      ⟨year, (inMonths 1 (monthLengths (isLeap year)) k).1,
        (inMonths 1 (monthLengths (isLeap year)) k).2⟩ := by
  refine ⟨_, _, Nat.succ_pos _, ?_, lt_sum_monthLengths ?_ ?_ ?_, rfl⟩
  · rw [daysBefore_eq (by omega) (by omega) (by omega)]
    omega
  · omega
  · omega
  · omega

/-- No day of the calendar comes after its last year. -/
theorem dayCount_le_daysBefore {year : Nat} (h : 9999 < year) : dayCount ≤ daysBefore year := by
  unfold dayCount daysBefore
  omega

/-! ## Days and dates -/

/-- A day of the year falls into a month, so many days after its first. -/
theorem inMonths_spec {lengths : List Nat} (start : Nat) {k : Nat} (h : k < lengths.sum) :
    ∃ i length, lengths[i]? = some length ∧ (inMonths start lengths k).1 = start + i ∧
      1 ≤ (inMonths start lengths k).2 ∧ (inMonths start lengths k).2 ≤ length ∧
      k = (lengths.take i).sum + ((inMonths start lengths k).2 - 1) := by
  induction lengths generalizing start k with
  | nil => simp at h
  | cons length rest ih =>
    rw [List.sum_cons] at h
    by_cases here : k < length
    · refine ⟨0, length, rfl, ?_⟩
      simp only [inMonths, here, if_true, List.take_zero, List.sum_nil]
      omega
    · have later : k - length < rest.sum := by omega
      obtain ⟨i, bound, found, month, first, last, before⟩ := ih (start + 1) later
      refine ⟨i + 1, bound, found, ?_⟩
      simp only [inMonths, here, if_false, List.take_succ_cons, List.sum_cons]
      omega

theorem dayNumber_eq (d : Date) : d.dayNumber =
    daysBefore d.year + ((monthLengths (isLeap d.year)).take (d.month - 1)).sum + (d.day - 1) := by
  rw [List.sum_eq_foldl]
  rfl

/-- A day number is that of its date. -/
theorem dayNumber_ofDayNumber (n : Nat) : (ofDayNumber n).dayNumber = n := by
  obtain ⟨year, k, -, split, inYear, date⟩ := exists_year n
  obtain ⟨i, length, -, month, first, -, before⟩ := inMonths_spec 1 inYear
  rw [date, dayNumber_eq]
  dsimp only
  rw [month, Nat.add_sub_cancel_left, split]
  omega

theorem ofDayNumber_inj {m n : Nat} : ofDayNumber m = ofDayNumber n ↔ m = n := by
  refine ⟨fun same => ?_, congrArg ofDayNumber⟩
  rw [← dayNumber_ofDayNumber m, same, dayNumber_ofDayNumber]

/-- The date of a day of the calendar stands in the calendar. -/
theorem isValid_ofDayNumber {n : Nat} (h : n < dayCount) : (ofDayNumber n).isValid = true := by
  obtain ⟨year, k, positive, split, inYear, date⟩ := exists_year n
  obtain ⟨i, length, found, month, first, last, -⟩ := inMonths_spec 1 inYear
  have early : year ≤ 9999 := by
    by_contra late
    have beyond : dayCount ≤ daysBefore year := dayCount_le_daysBefore (Nat.lt_of_not_le late)
    omega
  rw [date, isValid, hasDay, month, Nat.add_sub_cancel_left, found]
  simp only [Option.any_some, Bool.and_eq_true, decide_eq_true_eq]
  omega

end Date

/-! ## Written dates -/

section Digits

variable {width n : Nat}

theorem length_padded (positive : 0 < width) (h : n < 10 ^ width) :
    (padded width n).length = width := by
  have short : (digits n).length ≤ width :=
    (Nat.length_toDigits_le_iff (by decide) positive).2 h
  rw [padded, List.length_append, List.length_replicate]
  omega

theorem digitsValue_padded (width n : Nat) : digitsValue (padded width n) = n := by
  show Nat.ofDigitChars 10 (padded width n) 0 = n
  rw [padded, Nat.ofDigitChars_append, Nat.ofDigitChars_replicate_zero]
  exact Nat.ofDigitChars_ten_toDigits

theorem all_isAsciiDigit_padded (width n : Nat) :
    (padded width n).all Text.isAsciiDigit = true := by
  rw [List.all_eq_true]
  intro c mem
  rcases List.mem_append.1 mem with zero | digit
  · rw [List.eq_of_mem_replicate zero]
    decide
  · exact Nat.isDigit_of_mem_toDigits (by decide) (by decide) digit

/-- A number filled with zeros to a width is read back. -/
theorem readFixed?_padded (positive : 0 < width) (h : n < 10 ^ width) (rest : List Char) :
    readFixed? width (padded width n ++ rest) = some (n, rest) := by
  have length : (padded width n).length = width := length_padded positive h
  rw [readFixed?, List.take_left' length, List.drop_left' length, length,
    all_isAsciiDigit_padded, digitsValue_padded]
  simp

end Digits

namespace Date

theorem bounds_of_month {leap : Bool} {i length : Nat} (h : (monthLengths leap)[i]? = some length) :
    i < 12 ∧ length ≤ 31 := by
  have inYear : i < 12 := (List.getElem?_eq_some_iff.1 h).1
  have bounded : ∀ n ∈ monthLengths leap, n ≤ 31 := by cases leap <;> decide
  exact ⟨inYear, bounded length (List.mem_of_getElem? h)⟩

theorem bounds_of_isValid {d : Date} (valid : d.isValid = true) :
    d.year < 10 ^ 4 ∧ d.month < 10 ^ 2 ∧ d.day < 10 ^ 2 ∧ d.hasDay = true := by
  simp only [isValid, Bool.and_eq_true, decide_eq_true_eq] at valid
  obtain ⟨⟨-, year⟩, hasDay⟩ := valid
  have parts := hasDay
  simp only [Date.hasDay, Bool.and_eq_true, Option.any_eq_true, decide_eq_true_eq] at parts
  obtain ⟨-, length, found, day⟩ := parts
  obtain ⟨month, days⟩ := bounds_of_month found
  exact ⟨by omega, by omega, by omega, hasDay⟩

/-- A date is read back from its written form, whatever follows it. -/
theorem read?_isoText {d : Date} (valid : d.isValid = true) (rest : List Char) :
    read? (d.isoText.toList ++ rest) = some (d, rest) := by
  obtain ⟨year, month, day, hasDay⟩ := bounds_of_isValid valid
  have written : d.isoText.toList ++ rest = padded 4 d.year ++
      '-' :: (padded 2 d.month ++ '-' :: (padded 2 d.day ++ rest)) := by
    simp [isoText]
  have readMonth := readFixed?_padded (by decide) month ('-' :: (padded 2 d.day ++ rest))
  have readDay := readFixed?_padded (by decide) day rest
  rw [written, read?, readFixed?_padded (by decide) year]
  simp [expect?, readMonth, readDay, hasDay]

/-- Different dates are written differently. -/
theorem isoText_inj {d e : Date} (valid : d.isValid = true) (valid' : e.isValid = true) :
    d.isoText = e.isoText ↔ d = e := by
  refine ⟨fun same => ?_, congrArg isoText⟩
  have read := read?_isoText valid []
  rw [same, read?_isoText valid' []] at read
  cases read
  rfl

/-- The last date of the calendar. -/
def last : Date := ⟨9999, 12, 31⟩

theorem dayNumber_last : last.dayNumber + 1 = dayCount := rfl

end Date

/-! ## Dates of moments -/

namespace Moment

variable {m n : Moment}

theorem isValid_date (m : Moment) : m.date.isValid = true :=
  Date.isValid_ofDayNumber m.dayNumber_lt

@[simp] theorem dayNumber_date (m : Moment) : m.date.dayNumber = m.dayNumber :=
  Date.dayNumber_ofDayNumber m.dayNumber

theorem date_eq_iff : n.date = m.date ↔ n.dayNumber = m.dayNumber := Date.ofDayNumber_inj

@[simp] theorem date_dayStart (m : Moment) : m.dayStart.date = m.date := by
  rw [date_eq_iff, dayNumber_dayStart]

theorem ofDate_date (m : Moment) : Place.ofDate m.date 0 none = .inCalendar ⟨m.dayStart, none⟩ := by
  have valid : m.date.isValid = true := m.isValid_date
  simp only [Date.isValid, Bool.and_eq_true, decide_eq_true_eq] at valid
  have inCalendar : m.date.year ≠ 0 := Nat.ne_of_gt valid.1.1
  rw [Place.ofDate, if_neg inCalendar, dayNumber_date, Nat.add_zero]
  exact Place.ofMicros_of_lt m.dayStart.micros_lt none

end Moment

/-- The written date of a moment is read as the start of its day. -/
theorem Place.read_isoText (m : Moment) :
    Place.read m.date.isoText = .inCalendar ⟨m.dayStart, none⟩ := by
  have date : Date.read? m.date.isoText.toList = some (m.date, []) := by
    simpa using Date.read?_isoText m.isValid_date []
  have place : Place.readDate? m.date.isoText.toList = some (.inCalendar ⟨m.dayStart, none⟩) := by
    rw [Place.readDate?, date, ← m.ofDate_date]
    rfl
  rw [Place.read, place, Option.getD_some]

end OrderRetrieval.Calendar

import Mathlib.Tactic.Ring
import OrderRetrieval.Calendar.Timestamp

/-!
# Bounds of a day

The last moment of a day is found from the start of the next one.  The last day of the calendar has
no next day, and it is the only one without bounds (`Moment.dayBounds?_eq_none_iff`).  The bounds of
any other day enclose exactly the moments of the day (`Moment.between_dayBounds?`).
-/

namespace OrderRetrieval.Calendar

theorem day_pos : 0 < day := by
  decide

theorem span_eq : span = dayCount * day := rfl

namespace Moment

theorem ofMicros?_of_lt {n : Nat} (h : n < span) : ofMicros? n = some ⟨n, h⟩ :=
  dif_pos h

theorem ofMicros?_of_le {n : Nat} (h : span ≤ n) : ofMicros? n = none :=
  dif_neg (Nat.not_lt.2 h)

theorem dayNumber_lt (m : Moment) : m.dayNumber < dayCount := by
  refine Nat.div_lt_of_lt_mul ?_
  rw [Nat.mul_comm, ← span_eq]
  exact m.micros_lt

/-- A day after the start of a day is the start of the next. -/
theorem shift?_dayStart (m : Moment) :
    m.dayStart.shift? day = ofMicros? ((m.dayNumber + 1) * day : Nat) := by
  unfold shift?
  congr 1
  simp only [dayStart]
  push_cast
  ring

/-- Any moment but the first has one before it. -/
theorem shift?_neg_one {m : Moment} (h : 0 < m.micros) : ∃ n, m.shift? (-1) = some n := by
  have eq : (m.micros : Int) + (-1) = (m.micros - 1 : Nat) := by omega
  have before : m.micros - 1 < span := Nat.lt_of_le_of_lt (Nat.sub_le _ _) m.micros_lt
  exact ⟨_, by rw [shift?, eq, ofMicros?_of_lt before]⟩

/-- The last day of the calendar is the only one without bounds. -/
theorem dayBounds?_eq_none_iff {m : Moment} :
    m.dayBounds? = none ↔ m.dayNumber + 1 = dayCount := by
  have inCalendar : m.dayNumber < dayCount := m.dayNumber_lt
  unfold dayBounds?
  rw [shift?_dayStart]
  by_cases last : m.dayNumber + 1 = dayCount
  · have beyond : span ≤ (m.dayNumber + 1) * day := by
      rw [last, span_eq]
    rw [ofMicros?_of_le beyond]
    exact iff_of_true rfl last
  · have next : (m.dayNumber + 1) * day < span := by
      rw [span_eq]
      exact Nat.mul_lt_mul_of_pos_right (by omega) day_pos
    have positive : 0 < (m.dayNumber + 1) * day := Nat.mul_pos (Nat.succ_pos _) day_pos
    generalize (m.dayNumber + 1) * day = start at next positive
    obtain ⟨finish, hfinish⟩ := shift?_neg_one (m := ⟨start, next⟩) positive
    rw [ofMicros?_of_lt next, Option.bind_some, hfinish]
    exact iff_of_false (Option.some_ne_none _) last

theorem micros_of_ofMicros? {n : Int} {m : Moment} (h : ofMicros? n = some m) : m.micros = n := by
  cases n with
  | ofNat n =>
    obtain ⟨_, eq⟩ := Option.dite_none_right_eq_some.1 h
    cases eq
    rfl
  | negSucc n => cases h

theorem dayBounds?_eq_some {m first last : Moment} (h : m.dayBounds? = some (first, last)) :
    first = m.dayStart ∧ last.micros + 1 = m.dayStart.micros + day := by
  obtain ⟨next, hnext, rest⟩ := Option.bind_eq_some_iff.1 h
  obtain ⟨final, hfinal, eq⟩ := Option.map_eq_some_iff.1 rest
  cases eq
  have start : (next.micros : Int) = m.dayStart.micros + day := micros_of_ofMicros? hnext
  have before : (last.micros : Int) = next.micros + (-1) := micros_of_ofMicros? hfinal
  exact ⟨rfl, by omega⟩

/-- A moment falls on a day if it comes within a day's length of the start. -/
theorem dayNumber_eq_iff {m n : Moment} : n.dayNumber = m.dayNumber ↔
    m.dayStart.micros ≤ n.micros ∧ n.micros < m.dayStart.micros + day := by
  have positive : 0 < day := day_pos
  rw [dayNumber, Nat.div_eq_iff positive]
  simp only [dayStart]
  omega

/-- The bounds of a day enclose the moments of the day. -/
theorem between_dayBounds? {m first last : Moment} (h : m.dayBounds? = some (first, last))
    (n : Moment) :
    first.micros ≤ n.micros ∧ n.micros ≤ last.micros ↔ n.dayNumber = m.dayNumber := by
  obtain ⟨rfl, next⟩ := dayBounds?_eq_some h
  rw [dayNumber_eq_iff]
  omega

@[simp] theorem dayNumber_dayStart (m : Moment) : m.dayStart.dayNumber = m.dayNumber :=
  Nat.mul_div_cancel _ day_pos

end Moment

end OrderRetrieval.Calendar

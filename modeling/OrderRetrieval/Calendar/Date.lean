import OrderRetrieval.Number.Notation

/-!
# Calendar dates

Days of the years 1 to 9999 are numbered from 0, the first of January of year 1.  `dayNumber` and
`ofDayNumber` lead from dates to numbers and back.
-/

namespace OrderRetrieval.Calendar

/-- A year, a month from 1 and a day of the month from 1. -/
structure Date where
  year : Nat
  month : Nat
  day : Nat
deriving DecidableEq, Repr

/-- Every fourth year but of the centuries only every fourth. -/
def isLeap (year : Nat) : Bool := year % 4 == 0 && (year % 100 != 0 || year % 400 == 0)

/-- The lengths of the twelve months. -/
def monthLengths (leap : Bool) : List Nat :=
  [31, if leap then 29 else 28, 31, 30, 31, 30, 31, 31, 30, 31, 30, 31]

/-- The number of days before a year. -/
def daysBefore (year : Nat) : Nat :=
  365 * (year - 1) + (year - 1) / 4 - (year - 1) / 100 + (year - 1) / 400

/-- The number of days of the years 1 to 9999. -/
def dayCount : Nat := 3652059

namespace Date

/-- Whether the year has such a month and the month such a day. -/
def hasDay (d : Date) : Bool :=
  1 ≤ d.month && 1 ≤ d.day && (monthLengths (isLeap d.year))[d.month - 1]?.any (d.day ≤ ·)

/-- Whether the date stands in the calendar. -/
def isValid (d : Date) : Bool := 1 ≤ d.year && d.year ≤ 9999 && d.hasDay

/-- The number of the day. -/
def dayNumber (d : Date) : Nat :=
  daysBefore d.year + ((monthLengths (isLeap d.year)).take (d.month - 1)).foldl Nat.add 0 +
    (d.day - 1)

/-- The month and day of a day of the year, counted through the lengths of the months. -/
def inMonths (month : Nat) : List Nat → Nat → Nat × Nat
  | [], n => (month, n + 1)
  | length :: rest, n =>
    if n < length then (month, n + 1) else inMonths (month + 1) rest (n - length)

/-- The date of a day number: whole spans of 400, 100, 4 and 1 years are taken off in turn, where
the last century of four and the last year of four have a day more. -/
def ofDayNumber (n : Nat) : Date :=
  let inFour := n % 146097
  let century := min (inFour / 36524) 3
  let inCentury := inFour - 36524 * century
  let inLeapSpan := inCentury % 1461
  let single := min (inLeapSpan / 365) 3
  let year := 400 * (n / 146097) + 100 * century + 4 * (inCentury / 1461) + single + 1
  let (month, day) := inMonths 1 (monthLengths (isLeap year)) (inLeapSpan - 365 * single)
  ⟨year, month, day⟩

/-- Year, month and day with hyphens between. -/
def isoText (d : Date) : String :=
  String.ofList (Number.padded 4 d.year ++ '-' :: Number.padded 2 d.month ++
    '-' :: Number.padded 2 d.day)

end Date

end OrderRetrieval.Calendar

import OrderRetrieval.Calendar.Date

/-!
# Moments and timestamps

A moment is a clock reading in the years 1 to 9999, to the microsecond.  A timestamp is the reading
of a clock that may be known to run some time ahead of universal time; without such knowledge the
reading counts as universal time.  Not every timestamp has a universal reading: the offset may
lead out of the years that the calendar covers.
-/

namespace OrderRetrieval.Calendar

/-- Microseconds of a second. -/
def second : Nat := 1000000

/-- Microseconds of a day. -/
def day : Nat := 86400 * second

/-- Microseconds of the years 1 to 9999. -/
def span : Nat := dayCount * day

/-- A clock reading, in microseconds from the start of year 1. -/
@[ext]
structure Moment where
  micros : Nat
  micros_lt : micros < span
deriving DecidableEq

namespace Moment

/-- The moment that many microseconds after the start of year 1. -/
def ofMicros? (n : Int) : Option Moment :=
  match n with
  | .ofNat n => if h : n < span then some ⟨n, h⟩ else none
  | .negSucc _ => none

/-- The moment a signed number of microseconds later, if the calendar still covers it. -/
def shift? (m : Moment) (micros : Int) : Option Moment := ofMicros? (m.micros + micros)

/-- The day on which the moment falls. -/
def dayNumber (m : Moment) : Nat := m.micros / day

/-- The date on which the moment falls. -/
def date (m : Moment) : Date := .ofDayNumber m.dayNumber

/-- The first moment of the same day. -/
def dayStart (m : Moment) : Moment :=
  ⟨m.dayNumber * day, Nat.lt_of_le_of_lt (Nat.div_mul_le_self _ _) m.micros_lt⟩

/-- The first and the last moment of the same day.  The last one is found from the start of the
next day, so the last day of all has none. -/
def dayBounds? (m : Moment) : Option (Moment × Moment) :=
  (m.dayStart.shift? day).bind fun next => (next.shift? (-1)).map (m.dayStart, ·)

/-- The time of day: hour, minute, second and microsecond. -/
def clock (m : Moment) : Nat × Nat × Nat × Nat :=
  let micros := m.micros % day
  let seconds := micros / second
  (seconds / 3600, seconds / 60 % 60, seconds % 60, micros % second)

/-- Date and time of day, the microseconds only if there are any. -/
def isoText (m : Moment) : String :=
  let (hour, minute, seconds, micros) := m.clock
  let fraction := if micros = 0 then [] else '.' :: Number.padded 6 micros
  m.date.isoText ++ String.ofList ('T' :: Number.padded 2 hour ++ ':' :: Number.padded 2 minute ++
    ':' :: Number.padded 2 seconds ++ fraction)

end Moment

/-- A clock reading with the microseconds by which the clock is ahead of universal time, if
known. -/
structure Timestamp where
  reading : Moment
  offset : Option Int
deriving DecidableEq

namespace Timestamp

/-- A moment of universal time, named as such. -/
def ofUtc (m : Moment) : Timestamp := ⟨m, some 0⟩

/-- The moment of universal time; a reading without offset is one. -/
def utc? (t : Timestamp) : Option Moment :=
  match t.offset with
  | none => some t.reading
  | some ahead => t.reading.shift? (-ahead)

@[simp] theorem utc?_ofUtc (m : Moment) : (ofUtc m).utc? = some m := by
  simp [utc?, ofUtc, Moment.shift?, Moment.ofMicros?, m.micros_lt]

/-- An offset as a sign, hours and minutes, and what it has of seconds and microseconds. -/
def offsetText (ahead : Int) : String :=
  let seconds := ahead.natAbs / second
  let micros := ahead.natAbs % second
  let fraction := if micros = 0 then [] else '.' :: Number.padded 6 micros
  let tail := if seconds % 60 = 0 ∧ micros = 0 then []
    else ':' :: Number.padded 2 (seconds % 60) ++ fraction
  String.ofList ((if ahead < 0 then '-' else '+') :: Number.padded 2 (seconds / 3600) ++
    ':' :: Number.padded 2 (seconds / 60 % 60) ++ tail)

/-- The reading a signed number of microseconds later on the same clock, if the calendar still
covers it. -/
def shift? (t : Timestamp) (micros : Int) : Option Timestamp :=
  (t.reading.shift? micros).map fun m => { t with reading := m }

@[simp] theorem shift?_zero (t : Timestamp) : t.shift? 0 = some t := by
  simp [shift?, Moment.shift?, Moment.ofMicros?, t.reading.micros_lt]

/-- The reading, followed by the offset if there is one. -/
def isoText (t : Timestamp) : String :=
  t.reading.isoText ++ (t.offset.map offsetText).getD ""

/-- The form of a timestamp inside a message: its parts, of which seconds and microseconds may be
left out from the end while they are zero, and the offset in seconds. -/
def literal (t : Timestamp) : String :=
  let (hour, minute, seconds, micros) := t.reading.clock
  let date := t.reading.date
  let tail := if micros ≠ 0 then [seconds, micros] else if seconds ≠ 0 then [seconds] else []
  let parts := ([date.year, date.month, date.day, hour, minute] ++ tail).map toString
  let zone := match t.offset with
    | none => []
    | some ahead => ["tzinfo=TzInfo(" ++ toString (ahead.tdiv second) ++ ")"]
  "datetime.datetime(" ++ String.intercalate ", " (parts ++ zone) ++ ")"

end Timestamp

end OrderRetrieval.Calendar

import OrderRetrieval.Calendar.Reading

/-!
# Reading ISO 8601

A date is written `2024-01-15` or `20240115`, or by its week as `2024-W03-1` or `2024W031`, where
the day of the week may be left out.  Any one character may stand between the date and a time of
day of one to three pairs of digits, with colons or without, and a fraction; an offset of the same
form, or `Z`, ends the text.
-/

namespace OrderRetrieval.Calendar.Iso

open Number (digitsValue spanDigits)

/-- Why a text is no timestamp. -/
inductive Fault where
  | malformed
  | year (n : Nat)
  | month
  | day
  | hour
  | minute
  | second
  /-- The offset is a day or more. -/
  | offset (micros : Int)
deriving DecidableEq, Repr

/-- A character for each byte of the text in UTF-8: the character itself stands for the first. -/
def bytes (s : String) : List Char :=
  s.toList.flatMap fun c => c :: List.replicate (c.utf8Size - 1) '\xff'

/-- Whether nothing is left; a NUL ends a text as well. -/
def ends (cs : List Char) : Bool := cs.head?.all (· = '\x00')

/-- The length of the date that a text starts with.  A week without day is told from one with a day
by what follows: a hyphen before two digits starts a time, and so does an odd digit. -/
def dateLength (cs : List Char) : Nat :=
  let digitAt (k : Nat) := cs[k]?.any Text.isAsciiDigit
  if cs.length = 7 then 7
  else if cs[4]? = some '-' then
    if cs[5]? = some 'W' then (if cs[8]? = some '-' && !digitAt 10 then 10 else 8) else 10
  else if cs[4]? = some 'W' then
    let place := 7 + (spanDigits (cs.drop 7)).1.length
    if place < 9 then place else if place % 2 = 0 then 7 else 8
  else 8

/-- The number of the Monday of the first week of a year, the one that has the first Thursday. -/
def firstMonday (year : Nat) : Nat :=
  let newYear := daysBefore year
  let weekday := newYear % 7
  if 3 < weekday then newYear + 7 - weekday else newYear - weekday

/-- Whether the year has that week.  It has 53 if it starts on a Thursday, or on a Wednesday and is
a leap year. -/
def hasWeek (year week : Nat) : Bool :=
  let weekday := daysBefore year % 7
  1 ≤ week && (week ≤ 52 ||
    week = 53 && (weekday = 3 || weekday = 2 && isLeap year))

/-- The date of a day of a week. -/
def ofWeek? (year week weekday : Nat) : Option Date :=
  if 1 ≤ year ∧ hasWeek year week ∧ 1 ≤ weekday ∧ weekday ≤ 7 then
    some (Date.ofDayNumber (firstMonday year + 7 * (week - 1) + (weekday - 1)))
  else none

/-- The date at the start of a text, which is so long. -/
def readDate? (length : Nat) (cs : List Char) : Option Date := do
  let (year, rest) ← readFixed? 4 cs
  let hyphens := rest.head? = some '-'
  let part (cs : List Char) := if hyphens then expect? '-' cs else some cs
  let rest ← part rest
  match rest with
  | 'W' :: rest =>
    let (week, rest) ← readFixed? 2 rest
    if length + rest.length ≤ cs.length then ofWeek? year week 1
    else
      let (weekday, _) ← readFixed? 1 (← part rest)
      ofWeek? year week weekday
  | _ =>
    let (month, rest) ← readFixed? 2 rest
    let (dayOfMonth, _) ← readFixed? 2 (← part rest)
    some ⟨year, month, dayOfMonth⟩

/-- A time of day, whose hour, minute and second may be out of range, or the size of an offset. -/
structure Clock where
  hour : Nat
  minute : Nat
  second : Nat
  micros : Nat
deriving DecidableEq, Repr

/-- The time in microseconds. -/
def Clock.total (c : Clock) : Nat :=
  ((c.hour * 60 + c.minute) * 60 + c.second) * Calendar.second + c.micros

/-- Up to six digits as a fraction of a second, in microseconds, and whether the text ends after
these and further digits. -/
def readFraction? (cs : List Char) : Option (Nat × Bool) := do
  let width := min 6 cs.length
  let (value, rest) ← readFixed? width cs
  some (value * Number.tenTo (6 - width), ends (rest.dropWhile Text.isAsciiDigit))

/-- So many more pairs of digits and a fraction, and whether the text ends there.  The pairs are
separated by colons if the first one is followed by a colon. -/
def readPairs? (colons : Option Bool) (cs : List Char) : Nat → Option (List Nat × Nat × Bool)
  | 0 => (readFraction? cs).map ([], ·)
  | n + 1 => do
    let (pair, rest) ← readFixed? 2 cs
    let colons := colons.getD (rest.head? = some ':')
    match rest with
    | [] => some ([pair], 0, true)
    | [c] => some ([pair], 0, c = '\x00')
    | c :: more =>
      if c = '.' ∨ c = ',' then
        let (micros, ended) ← readFraction? more
        some ([pair], micros, ended)
      else if colons ∧ c ≠ ':' then none
      else
        let (pairs, fraction) ← readPairs? (some colons) (if colons then more else rest) n
        some (pair :: pairs, fraction)

/-- A time of day, and whether the text ends after it. -/
def readClock? (cs : List Char) : Option (Clock × Bool) :=
  (readPairs? none cs 3).map fun (pairs, micros, ended) =>
    (⟨pairs.getD 0 0, pairs.getD 1 0, pairs.getD 2 0, micros⟩, ended)

/-- A time of day with an offset, of which none means that there is none and one of less than a
second counts as zero.  Before an offset the text may go on after the time. -/
def readTime? (cs : List Char) : Option (Clock × Option Int) := do
  let isZone (c : Char) := c = '+' || c = '-' || c = 'Z'
  let (clock, ended) ← readClock? (cs.takeWhile (!isZone ·))
  match cs.dropWhile (!isZone ·) with
  | [] => if ended then some (clock, none) else none
  | 'Z' :: rest => if ends rest then some (clock, some 0) else none
  | sign :: rest =>
    let (ahead, ended) ← readClock? rest
    let size : Int := if ahead.total < second then 0 else ahead.total
    if ended then some (clock, some (if sign = '-' then -size else size)) else none

/-- The timestamp of a date, a time of day and an offset that may be out of range. -/
def assemble (date : Date) (clock : Clock) (offset : Option Int) : Except Fault Timestamp :=
  match offset.filter fun ahead => (day : Int) ≤ ahead.natAbs with
  | some ahead => .error (.offset ahead)
  | none =>
    if date.year < 1 ∨ 9999 < date.year then .error (.year date.year)
    else if date.month < 1 ∨ 12 < date.month then .error .month
    else if !date.isValid then .error .day
    else if 23 < clock.hour then .error .hour
    else if 59 < clock.minute then .error .minute
    else if 59 < clock.second then .error .second
    else match Moment.ofMicros? (date.dayNumber * day + clock.total : Nat) with
      | some m => .ok ⟨m, offset⟩
      | none => .error .malformed

/-- Read a timestamp. -/
def read (s : String) : Except Fault Timestamp :=
  let cs := bytes s
  let length := dateLength cs
  match readDate? length cs with
  | none => .error .malformed
  | some date =>
    match cs.drop length with
    | [] => assemble date ⟨0, 0, 0, 0⟩ none
    | separator :: rest =>
      match readTime? (rest.drop (separator.utf8Size - 1)) with
      | some (clock, offset) => assemble date clock offset
      | none => .error .malformed

end OrderRetrieval.Calendar.Iso

import OrderRetrieval.Calendar.Timestamp
import OrderRetrieval.Number.Numeral
import OrderRetrieval.Number.Rounding

/-!
# Reading timestamps

A timestamp is written as a date, or as a date, one of `T`, `t`, `_` or a space, and a time of day
with an optional offset; or it is a number, which counts seconds from the start of 1970, or
milliseconds once it exceeds twenty thousand million.  Either may name a time in the year before
year 1, which has the form of a timestamp but no place in the calendar.
-/

namespace OrderRetrieval.Calendar

open Number (digitsValue spanDigits splitSign Numeral)

/-- A row of exactly so many digits, its value, and what follows. -/
def readFixed? (width : Nat) (cs : List Char) : Option (Nat × List Char) :=
  let ds := cs.take width
  if ds.length = width && ds.all Text.isAsciiDigit then some (digitsValue ds, cs.drop width)
  else none

/-- The rest of a text after the given character. -/
def expect? (c : Char) : List Char → Option (List Char)
  | d :: cs => if d = c then some cs else none
  | [] => none

/-- A date and what follows it; the year may be the one before year 1. -/
def Date.read? (cs : List Char) : Option (Date × List Char) := do
  let (year, cs) ← readFixed? 4 cs
  let cs ← expect? '-' cs
  let (month, cs) ← readFixed? 2 cs
  let cs ← expect? '-' cs
  let (dayOfMonth, cs) ← readFixed? 2 cs
  let date : Date := ⟨year, month, dayOfMonth⟩
  if date.hasDay then some (date, cs) else none

/-- A fraction of a second in microseconds; digits after the sixth are cut off. -/
def readFraction? (cs : List Char) : Option (Nat × List Char) :=
  let (ds, rest) := spanDigits cs
  if ds.isEmpty then none
  else
    let kept := ds.take 6
    some (digitsValue (kept ++ List.replicate (6 - kept.length) '0'), rest)

/-- The seconds that may follow hour and minute, in microseconds. -/
def readSeconds? : List Char → Option (Nat × List Char)
  | ':' :: cs => do
    let (seconds, cs) ← readFixed? 2 cs
    guard (seconds ≤ 59)
    match cs with
    | '.' :: cs | ',' :: cs => (readFraction? cs).map fun (f, rest) => (seconds * second + f, rest)
    | _ => some (seconds * second, cs)
  | cs => some (0, cs)

/-- A time of day in microseconds and what follows it. -/
def readClock? (cs : List Char) : Option (Nat × List Char) := do
  let (hour, cs) ← readFixed? 2 cs
  let cs ← expect? ':' cs
  let (minute, cs) ← readFixed? 2 cs
  guard (hour ≤ 23 ∧ minute ≤ 59)
  let (micros, cs) ← readSeconds? cs
  some ((hour * 3600 + minute * 60) * second + micros, cs)

/-- The offset that ends a timestamp: nothing, a letter for universal time, or a sign, hours and
minutes of less than a day. -/
def readOffset? : List Char → Option (Option Int)
  | [] => some none
  | ['Z'] | ['z'] => some (some 0)
  | sign :: cs => do
    guard (sign = '+' ∨ sign = '-' ∨ sign = '−')
    let (hour, cs) ← readFixed? 2 cs
    let cs := (expect? ':' cs).getD cs
    let (minute, cs) ← readFixed? 2 cs
    guard (hour ≤ 23 ∧ minute ≤ 59 ∧ cs.isEmpty)
    let ahead : Int := ((hour * 60 + minute) * 60 * second : Nat)
    some (some (if sign = '+' then ahead else -ahead))

/-- The start of 1970, in microseconds. -/
def epoch : Nat := 719162 * day

/-- Where a timestamp points to that was given as a text or a number. -/
inductive Place where
  | inCalendar (t : Timestamp)
  /-- In the year before year 1. -/
  | beforeCalendar
  | nowhere
deriving DecidableEq

namespace Place

/-- So many microseconds after the start of year 1, with an offset. -/
def ofMicros (n : Int) (offset : Option Int) : Place :=
  match Moment.ofMicros? n with
  | some m => inCalendar ⟨m, offset⟩
  | none => if -(366 * day : Int) ≤ n ∧ n < 0 then beforeCalendar else nowhere

theorem ofMicros_of_lt {n : Nat} (h : n < span) (offset : Option Int) :
    ofMicros n offset = inCalendar ⟨⟨n, h⟩, offset⟩ := by
  simp [ofMicros, Moment.ofMicros?, h]

/-- So many microseconds after the start of a date, with an offset. -/
def ofDate (date : Date) (micros : Nat) (offset : Option Int) : Place :=
  if date.year = 0 then beforeCalendar
  else ofMicros (date.dayNumber * day + micros : Nat) offset

/-- The microseconds in one of the units that are counted. -/
def unit (inMilliseconds : Bool) : Nat := if inMilliseconds then 1000 else second

/-- A count beyond this size is one of milliseconds. -/
def unitLimit : Nat := 20000000000

/-- A whole count of units since the start of 1970. -/
def ofCount (n : Int) : Place :=
  ofMicros (epoch + n * unit (unitLimit < n.natAbs)) (some 0)

/-- The integer nearest to a double that is finite and not negative, a half counting up. -/
def nearestWhole (x : Float) : Nat :=
  match Double.view x with
  | .finite _ m e => Number.nearestUp (m * Number.twoTo e.toNat) (Number.twoTo (-e).toNat)
  | _ => 0

/-- A count with a fraction: the whole units up to it, and the rest of a unit to the nearest
microsecond. -/
def ofDouble (x : Float) : Place :=
  match Double.floor? x with
  | none => nowhere
  | some count =>
    let u := unit (Double.lt (Float.ofNat unitLimit) x.abs)
    let fraction := nearestWhole ((x - Float.ofInt count) * Float.ofNat u)
    ofMicros (epoch + count * u + fraction) (some 0)

/-- A timestamp written as a number: digits, or a numeral with a point right after its first
digits. -/
def readCount (cs : List Char) : Place :=
  let (negative, unsigned) := splitSign cs
  match spanDigits unsigned with
  | (ds, []) =>
    if ds.isEmpty then nowhere
    else ofCount (if negative then -(digitsValue ds : Int) else digitsValue ds)
  | (_, '.' :: _) => (Numeral.read? cs).elim nowhere fun n => ofDouble n.toDouble
  | _ => nowhere

/-- A timestamp written as a date, with or without a time of day. -/
def readDate? (cs : List Char) : Option Place := do
  let (date, cs) ← Date.read? cs
  match cs with
  | [] => some (ofDate date 0 none)
  | c :: cs =>
    guard (c = 'T' ∨ c = 't' ∨ c = '_' ∨ c = ' ')
    let (micros, cs) ← readClock? cs
    let offset ← readOffset? cs
    some (ofDate date micros offset)

/-- Where a text points to; one that is no date has to be a number. -/
def read (s : String) : Place := (readDate? s.toList).getD (readCount s.toList)

end Place

end OrderRetrieval.Calendar

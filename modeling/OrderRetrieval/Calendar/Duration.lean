import OrderRetrieval.Coercion
import OrderRetrieval.Number.Rounding

/-!
# Spans of time

A span is held in microseconds.  It is set as a number of seconds and reported as one, and it may
be no longer than 999999999 days.
-/

namespace OrderRetrieval

namespace Calendar

/-- A span in seconds, as near as a double comes to it. -/
def inSeconds (micros : Int) : Float :=
  let size := Float.ofScientific micros.natAbs true 6
  if micros < 0 then -size else size

/-- The fraction of a second that a double has beyond its whole part, to the nearest microsecond. -/
def fractionMicros (x : Float) (whole : Int) : Int :=
  match Double.view ((x - Float.ofInt whole) * 1000000) with
  | .finite negative m e =>
    let size : Int := Number.nearest (m * Number.twoTo e.toNat) (Number.twoTo (-e).toNat)
    if negative then -size else size
  | _ => 0

/-- The number of days that no span exceeds. -/
def longestSpan : Nat := 999999999

/-- The microseconds from the second timestamp to the first. -/
def Timestamp.since (now last : Timestamp) : Except Failure Int :=
  let readings : Int := now.reading.micros - last.reading.micros
  match now.offset, last.offset with
  | none, none => .ok readings
  | some a, some b => .ok (readings - a + b)
  | _, _ => .error .mixedOffsets

@[simp] theorem Timestamp.since_self (t : Timestamp) : t.since t = .ok 0 := by
  unfold Timestamp.since
  cases t.offset with
  | none => exact congrArg Except.ok (Int.sub_self _)
  | some ahead => exact congrArg Except.ok (by omega)

end Calendar

open Calendar (day longestSpan)

/-- The span of a number of seconds.  The whole seconds of a double count exactly and its fraction
to the nearest microsecond. -/
def Quantity.toSpan (q : Quantity) : Except Failure Int := do
  let micros ← match q with
    | .whole n => .ok (n * Calendar.second)
    | .double x => (Double.toWhole x).map fun n =>
      n * Calendar.second + Calendar.fractionMicros x n
  let days := micros / day
  if longestSpan < days.natAbs then .error (.durationTooLong days) else .ok micros

/-- The span of a number of seconds, which any other value is not. -/
def Datum.toSpan (x : Datum) : Except Failure Int :=
  match x.quantity? with
  | some q => q.toSpan
  | none => .error (.notADuration x.kindWord)

end OrderRetrieval

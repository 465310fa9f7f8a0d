import OrderRetrieval.Calendar.Timestamp
import OrderRetrieval.Number.Quantity

/-!
# Data

Source orders, filter values and address blobs hold data of any shape.  `Datum` is that shape:
the values of a data-exchange text, whose whole numbers and doubles are kept apart, together with
timestamps.  `Datum.same` is equality as filters see it, where numbers are compared by value, truth
values count as 0 and 1, and the fields of an object have no order.
-/

namespace OrderRetrieval

open Calendar (Timestamp)

/-- A value of any shape; the fields of an object stand in the order in which they were given. -/
inductive Datum where
  | null
  | bool (b : Bool)
  | int (n : Int)
  | float (x : Float)
  | str (s : String)
  | time (t : Timestamp)
  | arr (items : List Datum)
  | obj (fields : List (String × Datum))
deriving Inhabited

namespace Datum

/-- Whether the value is missing. -/
def isNull : Datum → Bool
  | .null => true
  | _ => false

/-- The value of a field. -/
def field? (fields : List (String × Datum)) (name : String) : Option Datum := fields.lookup name

/-- The value of a field, missing ones being null. -/
def field (fields : List (String × Datum)) (name : String) : Datum :=
  (field? fields name).getD .null

/-- Whether a value says something: null, false, zeros and everything empty do not. -/
def isTruthy : Datum → Bool
  | .null => false
  | .bool b => b
  | .int n => n != 0
  | .float x => Double.rank? x != some 0
  | .str s => !s.isEmpty
  | .time _ => true
  | .arr items => !items.isEmpty
  | .obj fields => !fields.isEmpty

/-- The first of two values if it says something, else the second. -/
def orElse (a b : Datum) : Datum := if a.isTruthy then a else b

/-- The number that a truth value or number stands for. -/
def quantity? : Datum → Option Quantity
  | .bool b => some (.whole (if b then 1 else 0))
  | .int n => some (.whole n)
  | .float x => some (.double x)
  | _ => none

/-- Equality of timestamps: readings without offset are equal as readings, the others as moments of
universal time, and one is never equal to the other. -/
def sameTime (s t : Timestamp) : Bool :=
  match s.offset, t.offset with
  | none, none => s.reading == t.reading
  | some a, some b =>
    (s.reading.micros : Int) - a == (t.reading.micros : Int) - b
  | _, _ => false

mutual

/-- Equality as filters see it. -/
def same : Datum → Datum → Bool
  | .null, .null => true
  | .str s, .str t => s == t
  | .time s, .time t => sameTime s t
  | .arr xs, .arr ys => sameItems xs ys
  | .obj xs, .obj ys => xs.length == ys.length && sameFields xs ys
  | a, b =>
    match a.quantity?, b.quantity? with
    | some x, some y => x.same y
    | _, _ => false

/-- Equality of lists, item by item. -/
def sameItems : List Datum → List Datum → Bool
  | [], [] => true
  | x :: xs, y :: ys => x.same y && sameItems xs ys
  | _, _ => false

/-- Whether every field stands with the same value among other fields. -/
def sameFields : List (String × Datum) → List (String × Datum) → Bool
  | [], _ => true
  | (name, x) :: xs, ys =>
    (match ys.lookup name with
      | some y => x.same y
      | none => false) && sameFields xs ys

end

end Datum

end OrderRetrieval

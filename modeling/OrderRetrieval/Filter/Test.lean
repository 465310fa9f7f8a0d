import OrderRetrieval.Coercion
import OrderRetrieval.Query.Operator
import OrderRetrieval.Text.Case

/-!
# Tests of one field

A test looks at the value of one field and accepts it or not.  It fails only where the field has no
value to look at.  Numbers and moments are two scales with the same comparisons.
-/

namespace OrderRetrieval

open Calendar (Moment)

/-- What a document has to pass; an answer may be missing because a timestamp is out of range. -/
abbrev Predicate := Document → Except Failure Bool

/-- A field and the values of it that are accepted. -/
structure Test where
  field : Field
  accepts : Value → Bool

namespace Test

/-- Whether a document passes. -/
def holds (t : Test) : Predicate := fun d => (d.value t.field).map t.accepts

/-- The test that accepts exactly what the given one does not. -/
def negate (t : Test) : Test := { t with accepts := fun v => !t.accepts v }

theorem holds_negate (t : Test) (d : Document) : t.negate.holds d = (t.holds d).map (!·) := by
  simp only [holds, negate]
  cases d.value t.field <;> rfl

end Test

namespace Value

/-- Whether the value equals a datum. -/
def equals (v : Value) (x : Datum) : Bool := v.datum.same x

/-- Whether the value equals one of several data. -/
def isAmong (v : Value) (xs : List Datum) : Bool := xs.any v.equals

/-- Whether the value is missing or an empty text. -/
def isBlank : Value → Bool
  | missing => true
  | text s => s.isEmpty
  | _ => false

/-- The text of the value in lower case. -/
def lowerText (v : Value) : List Char := Text.lowerChars v.searchText.toList

end Value

/-- Values that can be put in order. -/
structure Scale (α : Type) where
  /-- The place on the scale that a filter value stands for. -/
  read : Datum → Except Failure α
  /-- The place on the scale of a field's value. -/
  place? : Value → Option α
  le : α → α → Bool
  lt : α → α → Bool
  eq : α → α → Bool

namespace Scale

/-- The scale of numbers, for a field that holds amounts. -/
def numbers (field : Field) : Scale Float where
  read x := match x.toDouble with
    | .error (.notANumeral _) | .error (.notNumeric _) =>
      .error (.ofFault (.invalidValue field x .number))
    | r => r
  place?
    | .amount x => some x
    | _ => none
  le := Double.le
  lt := Double.lt
  eq := Double.eq

/-- The scale of moments, for a field that holds timestamps. -/
def moments (field : Field) : Scale Moment where
  read x := match x.toMoment with
    | .error (.notATimestamp _) => .error (.ofFault (.invalidValue field x .date))
    | r => r
  place?
    | .moment m => some m
    | _ => none
  le a b := a.micros ≤ b.micros
  lt a b := a.micros < b.micros
  eq a b := a.micros = b.micros

variable {α : Type} (s : Scale α)

/-- Accepts the values that have a place on the scale with the given property. -/
def placed (p : α → Bool) (v : Value) : Bool := (s.place? v).any p

/-- Accepts the values whose place is one of several. -/
def amongPlaces (xs : List α) : Value → Bool := s.placed fun a => xs.any (s.eq a)

/-- What an operator accepts, given the filter value. -/
def accepts (field : Field) (op : Operator) (value : Datum) : Except Failure (Value → Bool) :=
  match op with
  | .between => match value with
    | .arr [low, high] => do
      let low ← s.read low
      let high ← s.read high
      .ok (s.placed fun a => s.le low a && s.le a high)
    | _ => .error (.ofFault (.invalidValue field value .bounds))
  | .oneOf => return s.amongPlaces (← value.asItems.mapM s.read)
  | .noneOf => do
    let places ← value.asItems.mapM s.read
    .ok fun v => !s.amongPlaces places v
  | op => do
    let target ← s.read value
    .ok (match op with
      | .equals => s.placed fun a => s.eq a target
      | .notEquals => fun v => !s.placed (fun a => s.eq a target) v
      | .greaterThan => s.placed fun a => s.lt target a
      | .lessThan => s.placed fun a => s.lt a target
      | .greaterThanOrEqual => s.placed fun a => s.le target a
      | _ => s.placed fun a => s.le a target)

end Scale

end OrderRetrieval

import OrderRetrieval.Datum.Display
import OrderRetrieval.Document.Field

/-!
# Faults of a query

What can be wrong with a query before any document is looked at.
-/

namespace OrderRetrieval

/-- What a filter expects of its value. -/
inductive Expectation where
  | bounds
  | number
  | date
deriving DecidableEq, Repr

/-- The wording of an expectation. -/
def Expectation.text : Expectation → String
  | bounds => "between expects [min, max]"
  | number => "expected a number"
  | date => "expected a date or datetime"

/-- One thing wrong with a query. -/
inductive QueryFault where
  /-- The name, as shown, is that of no field, or of none that the request allows. -/
  | unsupportedField (name : String)
  /-- The field has no such operator. -/
  | unsupportedOperator (field : Field) (operator : String)
  /-- The operator needs a value. -/
  | missingValue (field : Field) (operator : String)
  /-- The value, or one of its items, is not of the kind that the field compares with. -/
  | invalidValue (field : Field) (value : Datum) (expected : Expectation)
  /-- Pages are numbered from 1. -/
  | pageTooSmall (page : Int)
  /-- A page holds at least one item and at most the greatest size allowed. -/
  | limitOutOfBounds (limit : Int) (maximum : Quantity)
  /-- A threshold lies between 0 and 1. -/
  | thresholdOutOfBounds (threshold : Float)

/-- The wording of a fault. -/
def QueryFault.message : QueryFault → String
  | unsupportedField name => "Unsupported field: " ++ name
  | unsupportedOperator field operator =>
    "Unsupported operator '" ++ operator ++ "' for field '" ++ field.name ++ "'"
  | missingValue field operator =>
    "Operator '" ++ operator ++ "' on field '" ++ field.name ++ "' requires a value"
  | invalidValue field value expected =>
    "Invalid value " ++ value.literal ++ " for field '" ++ field.name ++ "': " ++ expected.text
  | pageTooSmall page => "page must be >= 1, got " ++ toString page
  | limitOutOfBounds limit maximum =>
    "limit must be between 1 and " ++ maximum.display ++ ", got " ++ toString limit
  | thresholdOutOfBounds threshold =>
    "fuzzy_threshold must be between 0 and 1, got " ++ Number.display threshold

/-- Every fault of a query; there is at least one. -/
structure Rejection where
  first : QueryFault
  others : List QueryFault

namespace Rejection

/-- The faults in the order in which they were found. -/
def faults (r : Rejection) : List QueryFault := r.first :: r.others

/-- The rejection for some faults, if there are any. -/
def ofFaults? : List QueryFault → Option Rejection
  | [] => none
  | f :: fs => some ⟨f, fs⟩

theorem ofFaults?_eq_some_iff {fs : List QueryFault} {r : Rejection} :
    ofFaults? fs = some r ↔ r.faults = fs := by
  cases fs <;> cases r <;> simp [ofFaults?, faults, eq_comm]

/-- The wording of each fault. -/
def errors (r : Rejection) : List String := r.faults.map QueryFault.message

/-- The wording of a rejection: that of its only fault, or of all together. -/
def message (r : Rejection) : String :=
  match r.others with
  | [] => r.first.message
  | _ => "Invalid search query (" ++ toString r.errors.length ++ " errors): " ++
      String.intercalate "; " r.errors

end Rejection

end OrderRetrieval

import OrderRetrieval.Calendar.Reading
import OrderRetrieval.Datum.Basic
import OrderRetrieval.Number.Numeral

/-!
# Checked input

Documents and queries arrive as data of any shape.  Reading one gives either the typed value or
every issue it has, each with the path to the place at fault; the parts of a record are all read
even if one of them is at fault.
-/

namespace OrderRetrieval

open Calendar (Place Timestamp)

/-- One step of the path to a place in the input. -/
inductive PathStep where
  | name (s : String)
  | index (i : Nat)
deriving DecidableEq, Repr

/-- What is wrong with a value. -/
inductive Problem where
  | missing
  | stringType
  | intType
  | intParsing
  | intParsingSize
  | intFromFloat
  | finiteNumber
  | floatType
  | floatParsing
  | boolType
  | boolParsing
  | listType
  | dictType
  | modelType
  | unknownChoice
  | datetimeType
  | datetimeParsing
  | datetimeFromDateParsing
deriving DecidableEq, Repr

/-- The code under which a problem is reported. -/
def Problem.code : Problem → String
  | missing => "missing"
  | stringType => "string_type"
  | intType => "int_type"
  | intParsing => "int_parsing"
  | intParsingSize => "int_parsing_size"
  | intFromFloat => "int_from_float"
  | finiteNumber => "finite_number"
  | floatType => "float_type"
  | floatParsing => "float_parsing"
  | boolType => "bool_type"
  | boolParsing => "bool_parsing"
  | listType => "list_type"
  | dictType => "dict_type"
  | modelType => "model_type"
  | unknownChoice => "enum"
  | datetimeType => "datetime_type"
  | datetimeParsing => "datetime_parsing"
  | datetimeFromDateParsing => "datetime_from_date_parsing"

/-- A problem and where it lies. -/
structure Issue where
  path : List PathStep
  problem : Problem
deriving DecidableEq, Repr

/-- A value that was read, or everything that is wrong with the input. -/
abbrev Checked (α : Type) := Except (List Issue) α

namespace Checked

/-- The value as a whole has a problem. -/
def fail {α : Type} (p : Problem) : Checked α := .error [⟨[], p⟩]

/-- Issues of a part are issues of the whole, one step further down. -/
def within {α : Type} (step : PathStep) (x : Checked α) : Checked α :=
  x.mapError (·.map fun i => { i with path := step :: i.path })

/-- Supply the first part of a record. -/
def first {α β : Type} (f : α → β) (x : Checked α) : Checked β := Except.map f x

/-- Supply one more part of a record; the issues of all parts are kept. -/
def and {α β : Type} : Checked (α → β) → Checked α → Checked β
  | .ok f, .ok a => .ok (f a)
  | .ok _, .error is => .error is
  | .error is, .ok _ => .error is
  | .error is, .error js => .error (is ++ js)

/-- A text. -/
def string : Datum → Checked String
  | .str s => .ok s
  | _ => fail .stringType

/-- Any value at all. -/
def anything (x : Datum) : Checked Datum := .ok x

/-- A value that may be null. -/
def nullable {α : Type} (read : Datum → Checked α) : Datum → Checked (Option α)
  | .null => .ok none
  | x => (read x).map some

/-- The items of a list, the first of them at the given index. -/
def items {α : Type} (read : Datum → Checked α) (index : Nat) : List Datum → Checked (List α)
  | [] => .ok []
  | x :: xs =>
    (first List.cons (within (.index index) (read x))).and (items read (index + 1) xs)

/-- A list. -/
def list {α : Type} (read : Datum → Checked α) : Datum → Checked (List α)
  | .arr xs => items read 0 xs
  | _ => fail .listType

/-- An object of any fields. -/
def object : Datum → Checked (List (String × Datum))
  | .obj fields => .ok fields
  | _ => fail .dictType

/-- A record read from the fields of an object. -/
def record {α : Type} (read : List (String × Datum) → Checked α) : Datum → Checked α
  | .obj fields => read fields
  | _ => fail .modelType

/-- One of a fixed set of names. -/
def choice {α : Type} (ofName? : String → Option α) : Datum → Checked α
  | .str s => match ofName? s with
    | some a => .ok a
    | none => fail .unknownChoice
  | _ => fail .unknownChoice

/-- The numbers of 64 bits with a sign lie from the negative of this up to below it. -/
def wordLimit : Int := Number.twoTo 63

/-- A whole number, also one written as text or held as a double. -/
def whole : Datum → Checked Int
  | .bool b => .ok (if b then 1 else 0)
  | .int n => .ok n
  | .float x =>
    match Double.truncate? x with
    | none => fail .finiteNumber
    | some n =>
      if !Double.isWhole x then fail .intFromFloat
      else if -wordLimit < n ∧ n < wordLimit then .ok n else fail .intParsingSize
  | .str s =>
    match Number.Whole.read (Text.trim Text.isSpace s.toList) with
    | .number n => .ok n
    | .tooLong => fail .intParsingSize
    | .malformed => fail .intParsing
  | _ => fail .intType

/-- A double, also one held as a whole number or written as text. -/
def double : Datum → Checked Float
  | .bool b => .ok (if b then 1 else 0)
  | .int n => match Double.ofInt? n with
    | some x => .ok x
    | none => fail .floatType
  | .float x => .ok x
  | .str s => match Number.readAsciiDouble? s with
    | some x => .ok x
    | none => fail .floatParsing
  | _ => fail .floatType

/-- The words for yes and no. -/
def truthWord? (word : String) : Option Bool :=
  if word ∈ ["1", "on", "t", "true", "y", "yes"] then some true
  else if word ∈ ["0", "off", "f", "false", "n", "no"] then some false
  else none

/-- A truth value, also one held as 0 or 1 or written as a word. -/
def truth : Datum → Checked Bool
  | .bool b => .ok b
  | .int n => ofWhole n
  | .float x => match Double.toInt? x with
    | some n => if n = -wordLimit then fail .boolType else ofWhole n
    | none => fail .boolType
  | .str s => match truthWord? (String.ofList (s.toList.map Char.toLower)) with
    | some b => .ok b
    | none => fail .boolParsing
  | _ => fail .boolType
where
  /-- Zero and one are truth values, and numbers of more than 64 bits are not even tried. -/
  ofWhole (n : Int) : Checked Bool :=
    if n = 0 then .ok false
    else if n = 1 then .ok true
    else if -wordLimit ≤ n ∧ n < wordLimit then fail .boolParsing
    else fail .boolType

/-- A timestamp, also one given as text or as a count of seconds, which has to be in the range of
doubles. -/
def timestamp : Datum → Checked Timestamp
  | .time t => .ok t
  | .str s => inCalendar .datetimeFromDateParsing (Place.read s)
  | .int n =>
    if (Double.ofInt? n).isNone then fail .datetimeType
    else inCalendar .datetimeParsing (Place.ofCount n)
  | .float x => inCalendar .datetimeParsing (Place.ofDouble x)
  | _ => fail .datetimeType
where
  /-- The timestamp; one before the calendar is well formed, and what points nowhere has the given
  problem. -/
  inCalendar (p : Problem) : Place → Checked Timestamp
    | .inCalendar t => .ok t
    | .beforeCalendar => fail .datetimeParsing
    | .nowhere => fail p

/-- A field that has to be there. -/
def required {α : Type} (fields : List (String × Datum)) (name : String)
    (read : Datum → Checked α) : Checked α :=
  within (.name name) ((Datum.field? fields name).elim (fail .missing) read)

/-- A field that has a default. -/
def orDefault {α : Type} (fields : List (String × Datum)) (name : String)
    (read : Datum → Checked α) (default : α) : Checked α :=
  within (.name name) ((Datum.field? fields name).elim (.ok default) read)

end Checked

end OrderRetrieval

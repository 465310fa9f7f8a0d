import OrderRetrieval.Filter.Test
import OrderRetrieval.Query.Basic

/-!
# From conditions to tests

A condition is checked from left to right: its field, its operator, whether it has a value, and the
value itself.  What remains is a test.
-/

namespace OrderRetrieval

open Calendar (Moment)

/-- What an operator accepts of a text, given the filter value; address blobs count as their
canonical text. -/
def textAccepts (op : Operator) (value : Datum) : Value → Bool :=
  match op with
  | .isNull => fun v => v.isBlank
  | .isNotNull => fun v => !v.isBlank
  | .equals => fun v => v.equals value
  | .notEquals => fun v => !v.equals value
  | .oneOf => fun v => v.isAmong value.asItems
  | .noneOf => fun v => !v.isAmong value.asItems
  | op =>
    let needle := Text.lowerChars value.text.toList
    match op with
    | .contains => fun v => Text.occursIn needle v.lowerText
    | .notContains => fun v => !Text.occursIn needle v.lowerText
    | .startsWith => fun v => needle.isPrefixOf v.lowerText
    | _ => fun v => needle.isSuffixOf v.lowerText

/-- What accepts the moments of one day. -/
def dayAccepts (s : Scale Moment) (value : Datum) : Except Failure (Value → Bool) := do
  let target ← s.read value
  match target.dayBounds? with
  | none => .error .dateOutOfRange
  | some (first, last) => .ok (s.placed fun m => s.le first m && s.le m last)

/-- What an operator accepts of a date; dates are equal if they fall on the same day. -/
def dateAccepts (field : Field) (op : Operator) (value : Datum) : Except Failure (Value → Bool) :=
  let s := Scale.moments field
  match op with
  | .equals => dayAccepts s value
  | .notEquals => do
    let sameDay ← dayAccepts s value
    .ok fun v => !sameDay v
  | op => s.accepts field op value

/-- What an operator accepts of a field. -/
def Field.accepts (field : Field) (op : Operator) (value : Datum) :
    Except Failure (Value → Bool) :=
  match field.kind with
  | .string | .nestedPath | .enumeration | .json => .ok (textAccepts op value)
  | .numeric => (Scale.numbers field).accepts field op value
  | .date => dateAccepts field op value

namespace Condition

/-- The field and the operator of a condition, or the first fault in it that can be told without
looking at the value's kind. -/
def resolve (c : Condition) : Except QueryFault (Field × Operator) :=
  match Field.resolve (.str c.field) with
  | .error fault => .error fault
  | .ok field =>
    match Operator.ofName? c.operator with
    | none => .error (.unsupportedOperator field c.operator)
    | some op =>
      if op ∉ field.kind.operators then .error (.unsupportedOperator field op.name)
      else if !op.valueIsOptional && c.value.isNull then .error (.missingValue field op.name)
      else .ok (field, op)

/-- The test that a condition stands for. -/
def compile (c : Condition) : Except Failure Test :=
  match c.resolve with
  | .error fault => .error (.ofFault fault)
  | .ok (field, op) => (field.accepts op c.value).map fun accepts => ⟨field, accepts⟩

/-- Compile every condition, setting aside the faults of those that are rejected.  Any other failure
ends the work. -/
def compileEach : List Condition → Except Failure (List Test × List QueryFault)
  | [] => .ok ([], [])
  | c :: cs =>
    match c.compile with
    | .ok test => (compileEach cs).map fun (tests, faults) => (test :: tests, faults)
    | .error (.rejected r) => (compileEach cs).map fun (tests, faults) =>
        (tests, r.faults ++ faults)
    | .error e => .error e

/-- The faults of several conditions. -/
def validate (cs : List Condition) : Except Failure (List QueryFault) :=
  (compileEach cs).map Prod.snd

end Condition

/-- Refuse to go on if there are faults. -/
def refuse (faults : List QueryFault) : Except Failure Unit :=
  match Rejection.ofFaults? faults with
  | some r => .error (.rejected r)
  | none => .ok ()

namespace Predicate

/-- Passed by every document. -/
def always : Predicate := fun _ => .ok true

/-- Passed where the given one is not. -/
def not (p : Predicate) : Predicate := fun d => (p d).map (!·)

/-- Passed where all are passed; they are tried in turn up to the first that is not. -/
def all : List Predicate → Predicate
  | [] => always
  | p :: ps => fun d => do if ← p d then all ps d else .ok false

/-- Passed where one is passed; they are tried in turn up to the first that is. -/
def any : List Predicate → Predicate
  | [] => fun _ => .ok false
  | p :: ps => fun d => do if ← p d then .ok true else any ps d

/-- Several predicates combined; nothing to pass is passed by every document. -/
def combine (c : Combinator) : List Predicate → Predicate
  | [] => always
  | p :: ps => match c with
    | .notFirst => not p
    | .any => any (p :: ps)
    | .all => all (p :: ps)

/-- The documents that pass, in their order. -/
def select (p : Predicate) : List Document → Except Failure (List Document)
  | [] => .ok []
  | d :: ds => do
    let passed ← p d
    let rest ← select p ds
    .ok (if passed then d :: rest else rest)

end Predicate

/-- The predicate that all conditions together stand for. -/
def Condition.compileAll (cs : List Condition) : Except Failure Predicate := do
  let (tests, faults) ← compileEach cs
  refuse faults
  .ok (Predicate.combine .all (tests.map Test.holds))

/-- The condition that a field lies between two bounds. -/
def Condition.between (field : String) (low high : Datum) : Condition :=
  ⟨field, Operator.between.name, .arr [low, high], .all⟩

end OrderRetrieval

import OrderRetrieval.Document.Field

/-!
# Filter operators

The operators of filter conditions, the ones that each kind of field supports, and the ways in which
conditions are combined.
-/

namespace OrderRetrieval

/-- How a condition compares a field with its value. -/
inductive Operator where
  | equals
  | notEquals
  | contains
  | notContains
  | startsWith
  | endsWith
  | greaterThan
  | lessThan
  | greaterThanOrEqual
  | lessThanOrEqual
  | between
  | oneOf
  | noneOf
  | isNull
  | isNotNull
deriving DecidableEq, Repr

namespace Operator

/-- Every operator. -/
def all : List Operator :=
  [equals, notEquals, contains, notContains, startsWith, endsWith, greaterThan, lessThan,
    greaterThanOrEqual, lessThanOrEqual, between, oneOf, noneOf, isNull, isNotNull]

theorem mem_all (o : Operator) : o ∈ all := by cases o <;> decide

/-- The name of an operator in queries. -/
def name : Operator → String
  | equals => "equals"
  | notEquals => "not_equals"
  | contains => "contains"
  | notContains => "not_contains"
  | startsWith => "starts_with"
  | endsWith => "ends_with"
  | greaterThan => "greater_than"
  | lessThan => "less_than"
  | greaterThanOrEqual => "greater_than_or_equal"
  | lessThanOrEqual => "less_than_or_equal"
  | between => "between"
  | oneOf => "in"
  | noneOf => "not_in"
  | isNull => "is_null"
  | isNotNull => "is_not_null"

/-- The operator of that name. -/
def ofName? (s : String) : Option Operator := all.find? fun o => o.name == s

theorem ofName?_eq_some_iff {s : String} {o : Operator} : ofName? s = some o ↔ o.name = s := by
  constructor
  · intro h
    simpa using List.find?_some h
  · rintro rfl
    cases o <;> decide

@[simp] theorem ofName?_name (o : Operator) : ofName? o.name = some o :=
  ofName?_eq_some_iff.2 rfl

theorem name_injective {o o' : Operator} (h : o.name = o'.name) : o = o' := by
  rw [← ofName?_eq_some_iff, ofName?_name] at h
  exact (Option.some.inj h).symm

/-- Whether an operator goes without a value. -/
def valueIsOptional : Operator → Bool
  | isNull | isNotNull => true
  | _ => false

end Operator

/-- The operators that fields of a kind support, in the order in which they are listed. -/
def FieldKind.operators : FieldKind → List Operator
  | string => [.equals, .notEquals, .contains, .notContains, .startsWith, .endsWith, .oneOf,
      .noneOf, .isNull, .isNotNull]
  | nestedPath => [.equals, .notEquals, .contains, .notContains, .startsWith, .endsWith, .oneOf,
      .noneOf]
  | enumeration => [.equals, .notEquals, .oneOf, .noneOf]
  | numeric | date => [.equals, .notEquals, .greaterThan, .lessThan, .greaterThanOrEqual,
      .lessThanOrEqual, .between, .oneOf, .noneOf]
  | json => [.contains, .notContains]

/-- How several filters are combined. -/
inductive Combinator where
  | all
  | any
  | notFirst
deriving DecidableEq, Repr

namespace Combinator

/-- The name of a combinator in queries. -/
def name : Combinator → String
  | all => "AND"
  | any => "OR"
  | notFirst => "NOT"

/-- The combinator of that name. -/
def ofName? (s : String) : Option Combinator := [all, any, notFirst].find? fun c => c.name == s

end Combinator

/-- The direction of a sort key. -/
inductive Direction where
  | ascending
  | descending
deriving DecidableEq, Repr

namespace Direction

/-- The name of a direction in queries. -/
def name : Direction → String
  | ascending => "ASC"
  | descending => "DESC"

/-- The direction of that name. -/
def ofName? (s : String) : Option Direction := [ascending, descending].find? fun d => d.name == s

end Direction

end OrderRetrieval

/-!
# Searchable fields

The closed set of fields by which orders are found, each with the name that queries use and the
kind of value it holds.
-/

namespace OrderRetrieval

/-- A field of an order that queries may name. -/
inductive Field where
  | orderNumber
  | customerName
  | customerEmail
  | status
  | paymentStatus
  | fulfillmentStatus
  | totalAmount
  | createdAt
  | updatedAt
  | shippingAddress
  | billingAddress
  | notes
deriving DecidableEq, Repr, Inhabited

/-- What kind of value a field holds. -/
inductive FieldKind where
  | string
  | nestedPath
  | enumeration
  | numeric
  | date
  | json
deriving DecidableEq, Repr

namespace Field

/-- Every field, in the order in which the fields are listed to users. -/
def all : List Field :=
  [orderNumber, customerName, customerEmail, status, paymentStatus, fulfillmentStatus, totalAmount,
    createdAt, updatedAt, shippingAddress, billingAddress, notes]

theorem mem_all (f : Field) : f ∈ all := by cases f <;> decide

/-- The name of a field in queries. -/
def name : Field → String
  | orderNumber => "orderNumber"
  | customerName => "customerName"
  | customerEmail => "customerEmail"
  | status => "status"
  | paymentStatus => "paymentStatus"
  | fulfillmentStatus => "fulfillmentStatus"
  | totalAmount => "totalAmount"
  | createdAt => "createdAt"
  | updatedAt => "updatedAt"
  | shippingAddress => "shippingAddress"
  | billingAddress => "billingAddress"
  | notes => "notes"

/-- The field of that name. -/
def ofName? (s : String) : Option Field := all.find? fun f => f.name == s

theorem name_injective {f g : Field} (h : f.name = g.name) : f = g := by
  cases f <;> cases g <;> first | rfl | exact absurd h (by decide)

theorem ofName?_eq_some_iff {s : String} {f : Field} : ofName? s = some f ↔ f.name = s := by
  constructor
  · intro h
    simpa using List.find?_some h
  · rintro rfl
    cases f <;> decide

@[simp] theorem ofName?_name (f : Field) : ofName? f.name = some f :=
  ofName?_eq_some_iff.2 rfl

/-- The kind of value that a field holds. -/
def kind : Field → FieldKind
  | orderNumber | notes => .string
  | customerName | customerEmail => .nestedPath
  | status | paymentStatus | fulfillmentStatus => .enumeration
  | totalAmount => .numeric
  | createdAt | updatedAt => .date
  | shippingAddress | billingAddress => .json

end Field

namespace FieldKind

/-- The name of a kind of value. -/
def name : FieldKind → String
  | string => "string"
  | nestedPath => "nested_path"
  | enumeration => "enum"
  | numeric => "numeric"
  | date => "date"
  | json => "json"

end FieldKind

end OrderRetrieval

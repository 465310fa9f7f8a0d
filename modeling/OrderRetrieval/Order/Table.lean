import OrderRetrieval.Number.Notation
import OrderRetrieval.Order.Basic

/-!
# The order table

Orders in a database table: one row for each id, order numbers that are given and all different,
amounts of two decimal places, and moments of universal time.  What is missing sorts first.
-/

namespace OrderRetrieval

open Calendar (Moment Timestamp)

/-- A row of the order table.  Addresses are kept as texts, so they can be written. -/
structure OrderRow where
  id : String
  orderNumber : String
  status : Option String
  paymentStatus : Option String
  fulfillmentStatus : Option String
  totalAmount : Option Float
  shippingAddress : Datum
  billingAddress : Datum
  notes : Option String
  createdAt : Option Moment
  updatedAt : Option Moment
  shipping_writable : shippingAddress.isWritable = true
  billing_writable : billingAddress.isWritable = true

namespace OrderRow

/-- A text that may be missing, as data. -/
def optionalText : Option String → Datum
  | some s => .str s
  | none => .null

/-- The decimal text of an amount, with two places unless it is infinite. -/
def amountText (x : Float) : String :=
  if Double.isInfinite x then (if Double.lt x 0 then "-Infinity" else "Infinity")
  else Number.fixed 2 x

/-- The double nearest to the decimal text of an amount. -/
def amountDouble (x : Float) : Float := (Number.readDouble? (amountText x)).getD x

/-- A moment that may be missing, as data. -/
def optionalMoment : Option Moment → Datum
  | some m => .time ⟨m, none⟩
  | none => .null

/-- The row as a source order. -/
def toOrder (r : OrderRow) : Order := .ofAttributes
  [("id", .str r.id), ("order_number", .str r.orderNumber), ("status", optionalText r.status),
    ("payment_status", optionalText r.paymentStatus),
    ("fulfillment_status", optionalText r.fulfillmentStatus),
    ("total_amount", (r.totalAmount.map fun x => .float (amountDouble x)).getD .null),
    ("shipping_address", r.shippingAddress), ("billing_address", r.billingAddress),
    ("notes", optionalText r.notes), ("created_at", optionalMoment r.createdAt),
    ("updated_at", optionalMoment r.updatedAt)]

/-- When the row was last changed: updated, or else created. -/
def changedAt (r : OrderRow) : Option Moment := r.updatedAt.or r.createdAt

/-- Order by a moment that may be missing and then by id; what is missing comes first. -/
def precedes (key : OrderRow → Option Moment) (a b : OrderRow) : Bool :=
  match key a, key b with
  | none, some _ => true
  | some _, none => false
  | none, none => !(b.id < a.id)
  | some m, some n => m.micros < n.micros || (m.micros == n.micros && !(b.id < a.id))

end OrderRow

/-- The order table. -/
structure OrderTable where
  rows : List OrderRow

namespace OrderTable

/-- A table without rows. -/
def empty : OrderTable := ⟨[]⟩

/-- The row with that id. -/
def find? (t : OrderTable) (id : String) : Option OrderRow := t.rows.find? fun r => r.id == id

/-- The rows by time of creation. -/
def all (t : OrderTable) : List OrderRow := t.rows.mergeSort (OrderRow.precedes OrderRow.createdAt)

/-- The rows that were last changed at a moment or later, by time of the last update. -/
def changedSince (t : OrderTable) (since : Moment) : List OrderRow :=
  (t.rows.filter fun r => r.changedAt.any fun m => since.micros ≤ m.micros).mergeSort
    (OrderRow.precedes OrderRow.updatedAt)

/-- Without the row with that id. -/
def drop (t : OrderTable) (id : String) : OrderTable := ⟨t.rows.filter fun r => r.id != id⟩

/-- Put a row in the place of the one with its id; refused if another row has its order number. -/
def put (t : OrderTable) (r : OrderRow) : Except Failure OrderTable :=
  let others := (t.drop r.id).rows
  if others.any fun o => o.orderNumber == r.orderNumber then .error .conflict
  else .ok ⟨others ++ [r]⟩

end OrderTable

end OrderRetrieval

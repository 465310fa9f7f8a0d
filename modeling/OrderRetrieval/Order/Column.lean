import OrderRetrieval.Coercion
import OrderRetrieval.Order.Table

/-!
# Columns of the order table

Rows are given by their columns.  A status or amount that is not given has a default, which a null
is not; an order number has to be given.
-/

namespace OrderRetrieval.OrderRow

open Calendar (Moment Timestamp)

/-- The text that a column of texts holds for a value, if it holds any.  Truth values count as 0 and
1, whole numbers have to fit into 64 bits, and what is not a number leaves nothing. -/
def columnText : Datum → Except Failure (Option String)
  | .null => .ok none
  | .bool b => .ok (some (if b then "1" else "0"))
  | .int n =>
    if -Checked.wordLimit ≤ n ∧ n < Checked.wordLimit then .ok (some (toString n))
    else .error .columnOverflow
  | .float x => .ok (if Double.isNotANumber x then none else some (Number.columnText x))
  | .str s => .ok (some s)
  | _ => .error .notStorable

/-- A text column. -/
def textColumn (columns : List (String × Datum)) (name : String) (default : Option String) :
    Except Failure (Option String) :=
  (Datum.field? columns name).elim (.ok default) columnText

/-- The amount column, a number or a decimal text.  The table holds only one zero, and nothing in
the place of what is not a number. -/
def amountColumn (columns : List (String × Datum)) : Option Float :=
  match Datum.field? columns "total_amount" with
  | none => some 0
  | some x => match x.toDouble with
    | .error _ => none
    | .ok y =>
      if Double.isNotANumber y then none else if Double.eq y 0 then some 0 else some y

/-- A column of moments, which are read off a clock without regard to its offset. -/
def momentColumn (columns : List (String × Datum)) (name : String) :
    Except Failure (Option Moment) :=
  match Datum.field columns name with
  | .null => .ok none
  | x => x.toClock.map fun t => some t.reading

/-- A column of addresses, which have to be such that they can be written. -/
def addressColumn (columns : List (String × Datum)) (name : String) :
    Except Failure { address : Datum // address.isWritable = true } :=
  if h : (Datum.field columns name).isWritable then .ok ⟨_, h⟩ else .error .notStorable

/-- The row of some columns. -/
def ofColumns (columns : List (String × Datum)) : Except Failure OrderRow := do
  let createdAt ← momentColumn columns "created_at"
  let updatedAt ← momentColumn columns "updated_at"
  let id ← textColumn columns "id" none
  let orderNumber ← textColumn columns "order_number" none
  let status ← textColumn columns "status" (some "PENDING")
  let paymentStatus ← textColumn columns "payment_status" (some "PENDING")
  let fulfillmentStatus ← textColumn columns "fulfillment_status" (some "UNFULFILLED")
  let shipping ← addressColumn columns "shipping_address"
  let billing ← addressColumn columns "billing_address"
  let notes ← textColumn columns "notes" none
  match orderNumber with
  | none => .error .conflict
  | some orderNumber => .ok {
      id := id.getD ""
      orderNumber
      status
      paymentStatus
      fulfillmentStatus
      totalAmount := amountColumn columns
      shippingAddress := shipping
      billingAddress := billing
      notes
      createdAt
      updatedAt
      shipping_writable := shipping.2
      billing_writable := billing.2 }

end OrderRetrieval.OrderRow

namespace OrderRetrieval.OrderTable

open Calendar (Timestamp)

/-- The row whose id a value is the text of in the table. -/
def findBy (t : OrderTable) (id : Datum) : Except Failure (Option OrderRow) :=
  (OrderRow.columnText id).map fun key => key.bind t.find?

/-- Without the row whose id a value is the text of in the table. -/
def dropBy (t : OrderTable) (id : Datum) : Except Failure OrderTable :=
  (OrderRow.columnText id).map fun key => (key.map t.drop).getD t

/-- The rows that were last changed at a time or later, whose moment has to be one of the
calendar. -/
def changedAfter (t : OrderTable) (since : Timestamp) : Except Failure (List OrderRow) :=
  since.moment.map t.changedSince

end OrderRetrieval.OrderTable

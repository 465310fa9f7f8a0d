import OrderRetrieval.Document.Basic
import OrderRetrieval.Coercion
import OrderRetrieval.Order.Basic

/-!
# From orders to documents

An order becomes a document by having its address flattened, its amount taken for a double and
everything else checked.  An order that cannot become one is rejected together with its id, unless
the id itself cannot be written.
-/

namespace OrderRetrieval.Order

/-- The part of an address under the first of some names that says something; nothing if the
address is no object. -/
def addressPart (address : Datum) (names : List String) : Datum :=
  match address with
  | .obj parts => names.foldr (fun name rest => (Datum.field parts name).orElse rest) (.str "")
  | _ => .str ""

/-- The customer's name in an address. -/
def customerName (address : Datum) : Datum := addressPart address ["name", "fullName"]

/-- The customer's e-mail address in an address. -/
def customerEmail (address : Datum) : Datum := addressPart address ["email"]

/-- An address, if it is an object. -/
def blobOrNull : Datum → Datum
  | .obj parts => .obj parts
  | _ => .null

/-- The amount of an order; a missing one is zero. -/
def amount : Datum → Except Failure Float
  | .null => .ok 0
  | x => x.toDouble

/-- What the document of an order is made of. -/
def documentFields (o : Order) (id : Datum) : Except Failure (List (String × Datum)) := do
  let shipping ← o.read "shipping_address"
  let orderNumber ← o.read "order_number"
  let status ← o.read "status"
  let paymentStatus ← o.read "payment_status"
  let fulfillmentStatus ← o.read "fulfillment_status"
  let total ← amount (← o.read "total_amount")
  let createdAt ← o.read "created_at"
  let updatedAt ← o.read "updated_at"
  let billing ← o.read "billing_address"
  let notes ← o.read "notes"
  .ok [("id", .str id.text), ("order_number", orderNumber.orElse (.str "")),
    ("customer_name", customerName shipping), ("customer_email", customerEmail shipping),
    ("status", status), ("payment_status", paymentStatus),
    ("fulfillment_status", fulfillmentStatus), ("total_amount", .float total),
    ("created_at", createdAt), ("updated_at", updatedAt),
    ("shipping_address", blobOrNull shipping), ("billing_address", blobOrNull billing),
    ("notes", notes.orElse (.str ""))]

/-- What a document is called where one is malformed. -/
def documentTitle : String := "SearchDocument"

/-- The document of an order whose id is known. -/
def toDocumentAs (o : Order) (id : Datum) : Except Failure Document := do
  let fields ← o.documentFields id
  (Document.read fields).mapError (.malformed documentTitle)

/-- The document of an order, without its searchable text. -/
def toDocument (o : Order) : Except Failure Document :=
  match o.read "id" with
  | .error e => .error (.orderRejected .null e.message)
  | .ok .null => .error (.orderRejected .null "order has no id")
  | .ok id =>
    if id.isWritable then (o.toDocumentAs id).mapError fun e => .orderRejected id e.message
    else .error (.orderRejected .null Failure.tooManyDigits.message)

end OrderRetrieval.Order

import OrderRetrieval.Checked

/-!
# Documents

A document is one order as the index holds it: flat, with the customer's name and address taken
out of the shipping address, and with the text in which searches look.
-/

namespace OrderRetrieval

open Calendar (Timestamp)

/-- The parts of an address, of any names and shapes. -/
abbrev Blob := List (String × Datum)

/-- An order as the index holds it. -/
structure Document where
  id : String
  orderNumber : String
  customerName : String
  customerEmail : String
  status : Option String
  paymentStatus : Option String
  fulfillmentStatus : Option String
  totalAmount : Float
  createdAt : Option Timestamp
  updatedAt : Option Timestamp
  shippingAddress : Option Blob
  billingAddress : Option Blob
  notes : String
  searchableText : String
deriving Inhabited

namespace Document

open Checked

/-- Read a document from the fields of an object; only the id has to be there. -/
def read (fields : List (String × Datum)) : Checked Document :=
  first Document.mk (required fields "id" string)
    |>.and (orDefault fields "order_number" string "")
    |>.and (orDefault fields "customer_name" string "")
    |>.and (orDefault fields "customer_email" string "")
    |>.and (orDefault fields "status" (nullable string) none)
    |>.and (orDefault fields "payment_status" (nullable string) none)
    |>.and (orDefault fields "fulfillment_status" (nullable string) none)
    |>.and (orDefault fields "total_amount" double 0)
    |>.and (orDefault fields "created_at" (nullable timestamp) none)
    |>.and (orDefault fields "updated_at" (nullable timestamp) none)
    |>.and (orDefault fields "shipping_address" (nullable object) none)
    |>.and (orDefault fields "billing_address" (nullable object) none)
    |>.and (orDefault fields "notes" string "")
    |>.and (orDefault fields "searchable_text" string "")

end Document

end OrderRetrieval

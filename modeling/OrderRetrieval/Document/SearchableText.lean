import OrderRetrieval.Datum.Display
import OrderRetrieval.Document.Basic
import OrderRetrieval.Text.Case

/-!
# The searchable text of a document

Everything about an order that a reader may look for, in one lower-case line.  The line can be
written if the parts of the addresses that go into it can.
-/

namespace OrderRetrieval.Document

/-- The parts of an address that are searched, in their order in the line. -/
def addressParts : List String := ["street", "city", "state", "country", "postalCode"]

/-- The parts that an address has of those that are searched. -/
def addressValues (b : Blob) : List Datum :=
  (addressParts.map (Datum.field b)).filter Datum.isTruthy

/-- Their texts. -/
def addressTexts (b : Blob) : List String := (addressValues b).map Datum.text

/-- Every text of the document that counts, empty ones included. -/
def searchableParts (d : Document) : List String :=
  [d.orderNumber, d.customerName, d.customerEmail, d.status.getD "", d.paymentStatus.getD "",
    d.fulfillmentStatus.getD "", d.notes] ++
    addressTexts (d.shippingAddress.getD []) ++ addressTexts (d.billingAddress.getD [])

/-- The searchable text: the parts that are not empty, with spaces between, in lower case. -/
def buildSearchableText (d : Document) : String :=
  Text.lower (String.intercalate " " (d.searchableParts.filter fun s => !s.isEmpty))

/-- Whether the searchable text can be written. -/
def isWritable (d : Document) : Bool :=
  (addressValues (d.shippingAddress.getD [])).all Datum.isWritable &&
    (addressValues (d.billingAddress.getD [])).all Datum.isWritable

/-- The document with its searchable text built anew. -/
def prepared (d : Document) : Document := { d with searchableText := d.buildSearchableText }

@[simp] theorem id_prepared (d : Document) : d.prepared.id = d.id := rfl

/-- The searchable text does not depend on the one that the document came with. -/
@[simp] theorem prepared_prepared (d : Document) : d.prepared.prepared = d.prepared := rfl

end OrderRetrieval.Document

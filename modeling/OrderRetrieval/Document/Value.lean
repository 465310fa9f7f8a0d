import OrderRetrieval.Datum.Canonical
import OrderRetrieval.Document.Basic
import OrderRetrieval.Document.Field
import OrderRetrieval.Failure

/-!
# The values of a document's fields

`Document.value` gives the typed value of a field, `textValue` the text in which searches look and
`key` the value by which documents are sorted and counted.  Timestamps are taken as moments of
universal time; a document whose timestamp has none cannot be looked at through that field.
-/

namespace OrderRetrieval

open Calendar (Timestamp Moment)

/-- The value of a field. -/
inductive Value where
  | missing
  | text (s : String)
  | amount (x : Float)
  | moment (m : Moment)
  | blob (b : Blob)

/-- The moment of universal time that a timestamp stands for. -/
def Calendar.Timestamp.moment (t : Timestamp) : Except Failure Moment :=
  match t.utc? with
  | some m => .ok m
  | none => .error .dateOutOfRange

/-- The field that a name stands for. -/
def Field.resolve (name : Datum) : Except QueryFault Field :=
  match name with
  | .str s => match Field.ofName? s with
    | some f => .ok f
    | none => .error (.unsupportedField s)
  | other => .error (.unsupportedField other.text)

@[simp] theorem Field.resolve_name (f : Field) : Field.resolve (.str f.name) = .ok f := by
  simp [Field.resolve]

namespace Value

/-- A text that may be missing. -/
def ofText? : Option String → Value
  | some s => text s
  | none => missing

/-- An address that may be missing. -/
def ofBlob? : Option Blob → Value
  | some b => blob b
  | none => missing

/-- A timestamp that may be missing. -/
def ofTimestamp? : Option Timestamp → Except Failure Value
  | some t => t.moment.map moment
  | none => .ok missing

/-- The value as data, the way filters compare it. -/
def datum : Value → Datum
  | missing => .null
  | text s => .str s
  | amount x => .float x
  | moment m => .time (.ofUtc m)
  | blob b => .obj b

/-- The text of an amount, a whole one without a point. -/
def amountText (x : Float) : String :=
  match Double.toInt? x with
  | some n => toString n
  | none => Number.display x

/-- The canonical text of an address, of which it is taken that its parts can be written
(`Datum.isWritable`) and are not nested deeper than the stack allows. -/
def blobText (b : Blob) : String := Datum.canonical (.obj b)

/-- The text of a value; a missing one is empty. -/
def searchText : Value → String
  | missing => ""
  | text s => s
  | amount x => amountText x
  | moment m => (Timestamp.ofUtc m).isoText
  | blob b => blobText b

/-- An address gives way to its canonical text; other values are their own key. -/
def toKey : Value → Value
  | blob b => text (blobText b)
  | v => v

end Value

namespace Document

/-- A text of the shipping address, or else the one held beside it unless that is empty. -/
def customerText (d : Document) (part : String) (stored : String) : Value :=
  match Datum.field (d.shippingAddress.getD []) part with
  | .null => if stored.isEmpty then .missing else .text stored
  | x => .text x.text

/-- The typed value of a field. -/
def value (d : Document) : Field → Except Failure Value
  | .orderNumber => .ok (.text d.orderNumber)
  | .customerName => .ok (d.customerText "name" d.customerName)
  | .customerEmail => .ok (d.customerText "email" d.customerEmail)
  | .status => .ok (.ofText? d.status)
  | .paymentStatus => .ok (.ofText? d.paymentStatus)
  | .fulfillmentStatus => .ok (.ofText? d.fulfillmentStatus)
  | .totalAmount => .ok (.amount d.totalAmount)
  | .createdAt => Value.ofTimestamp? d.createdAt
  | .updatedAt => Value.ofTimestamp? d.updatedAt
  | .shippingAddress => .ok (.ofBlob? d.shippingAddress)
  | .billingAddress => .ok (.ofBlob? d.billingAddress)
  | .notes => .ok (.text d.notes)

/-- The text of a field in which searches look. -/
def textValue (d : Document) (f : Field) : Except Failure String :=
  (d.value f).map Value.searchText

/-- The value by which documents are sorted and counted. -/
def key (d : Document) (f : Field) : Except Failure Value := (d.value f).map Value.toKey

/-- The moment at which the order was created. -/
def createdMoment? (d : Document) : Except Failure (Option Moment) :=
  match d.createdAt with
  | some t => t.moment.map some
  | none => .ok none

end Document

end OrderRetrieval

import OrderRetrieval.Failure

/-!
# Source orders

An order in the source is a collection of attributes of any shape.  Reading an attribute may fail;
an attribute that is not there is null.
-/

namespace OrderRetrieval

/-- The value as running text, which has to be one that can be written. -/
def Datum.write (x : Datum) : Except Failure String :=
  if x.isWritable then .ok x.text else .error .tooManyDigits

/-- An order as the source gives it, with the attributes that cannot be read and the reasons. -/
structure Order where
  attributes : List (String × Datum)
  faults : List (String × String)

namespace Order

/-- An order all of whose attributes can be read. -/
def ofAttributes (attributes : List (String × Datum)) : Order := ⟨attributes, []⟩

/-- A datum as an order; only objects have attributes. -/
def ofDatum : Datum → Order
  | .obj fields => ofAttributes fields
  | _ => ofAttributes []

/-- The value of an attribute. -/
def read (o : Order) (name : String) : Except Failure Datum :=
  match o.faults.lookup name with
  | some reason => .error (.unreadable reason)
  | none => .ok (Datum.field o.attributes name)

/-- The id under which the order is indexed. -/
def sourceId (o : Order) : Except Failure String := o.read "id" >>= Datum.write

end Order

end OrderRetrieval

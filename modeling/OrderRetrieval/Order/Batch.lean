import OrderRetrieval.Index.Basic
import OrderRetrieval.Notice
import OrderRetrieval.Order.Mapping

/-!
# Batches of orders

A batch of orders goes into the index one by one, or is mapped to documents as a whole.  An order
that is rejected is reported and does not keep the others back.  What goes into the index is also
rejected if its document cannot be stored, which mapping alone does not find out.
-/

namespace OrderRetrieval

/-- How a batch of orders went. -/
structure BatchResult where
  total : Nat
  indexed : Nat
  failed : Nat
  millis : Float
  errors : List String

namespace BatchResult

/-- Nothing done yet. -/
def start (millis : Float) : BatchResult := ⟨0, 0, 0, millis, []⟩

/-- One more order indexed. -/
def success (r : BatchResult) : BatchResult :=
  { r with total := r.total + 1, indexed := r.indexed + 1 }

/-- One more order rejected. -/
def failure (r : BatchResult) (message : String) : BatchResult :=
  { r with total := r.total + 1, failed := r.failed + 1, errors := r.errors ++ [message] }

/-- What is noted about a batch: every rejected order. -/
def notices (r : BatchResult) : List Notice := r.errors.map .orderSkipped

end BatchResult

namespace Order

/-- Put the document of an order into an index.  A document that cannot be stored is reported under
its id. -/
def enter (i : Index) (o : Order) : Except Failure Index := do
  let d ← o.toDocument
  (i.store d).mapError fun e => .orderRejected (.str d.id) e.message

/-- Index one order of a batch. -/
def indexStep (acc : Index × BatchResult) (o : Order) : Index × BatchResult :=
  match enter acc.1 o with
  | .ok i => (i, acc.2.success)
  | .error e => (acc.1, acc.2.failure e.message)

/-- Index a batch of orders that takes the given time. -/
def indexAll (index : Index) (millis : Float) (orders : List Order) : Index × BatchResult :=
  orders.foldl indexStep (index, .start millis)

/-- Map one order of a batch. -/
def mapStep (acc : List Document × BatchResult) (o : Order) : List Document × BatchResult :=
  match o.toDocument with
  | .ok d => (acc.1 ++ [d], acc.2.success)
  | .error e => (acc.1, acc.2.failure e.message)

/-- Map a batch of orders that takes the given time. -/
def mapAll (millis : Float) (orders : List Order) : List Document × BatchResult :=
  orders.foldl mapStep ([], .start millis)

end Order

end OrderRetrieval

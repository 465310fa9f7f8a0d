import OrderRetrieval.Order.Column

/-!
# Order sources

Where orders come from: a collection held in memory, which can be made unreachable and remembers
from when on it was asked for changes, or the order table.  A source in memory keeps no times and
reports every order as changed; it may hold nothing under a key, which is fetched with the others
but not found.
-/

namespace OrderRetrieval

open Calendar (Timestamp)

/-- Orders in memory, by the text of their ids, in the order in which the ids came in. -/
structure OrderMemory where
  orders : List (String × Option Order)
  /-- Why the source cannot be reached, while it cannot. -/
  fault : Option String
  /-- The times since which changes were asked for. -/
  asked : List Timestamp

namespace OrderMemory

/-- A source without orders. -/
def empty : OrderMemory := ⟨[], none, []⟩

/-- Put an order in the place of the one under its key, or at the end. -/
def place (key : String) (o : Option Order) :
    List (String × Option Order) → List (String × Option Order)
  | [] => [(key, o)]
  | (k, p) :: rest => if k = key then (k, o) :: rest else (k, p) :: place key o rest

/-- The key of an order: the text of its id, whether or not the id can be read, and that of null if
it has none. -/
def key (o : Option Order) : String :=
  (Datum.field ((o.map Order.attributes).getD []) "id").text

/-- Put an order, or nothing, under its key. -/
def put (m : OrderMemory) (o : Option Order) : OrderMemory :=
  { m with orders := place (key o) o m.orders }

/-- What is held, nothing being an order without attributes. -/
def all (m : OrderMemory) : List Order := m.orders.map fun e => e.2.getD (.ofAttributes [])

/-- Take out the order under a key. -/
def drop (m : OrderMemory) (key : String) : OrderMemory :=
  { m with orders := m.orders.filter fun e => e.1 != key }

/-- Answer with what the source holds, if it can be reached. -/
def answer {α : Type} (m : OrderMemory) (a : α) : Except Failure α :=
  match m.fault with
  | some reason => .error (.sourceUnavailable reason)
  | none => .ok a

end OrderMemory

/-- Where orders come from. -/
inductive OrderSource where
  | memory (m : OrderMemory)
  | table (t : OrderTable)

namespace OrderSource

/-- Every order. -/
def fetchAll : OrderSource → Except Failure (List Order)
  | memory m => m.answer m.all
  | table t => .ok (t.all.map OrderRow.toOrder)

/-- The order with that id. -/
def fetchOne (id : Datum) : OrderSource → Except Failure (Option Order)
  | memory m => m.answer (m.orders.lookup id.text).join
  | table t => (t.findBy id).map fun r => r.map OrderRow.toOrder

/-- The number of orders. -/
def count : OrderSource → Except Failure Nat
  | memory m => m.answer m.orders.length
  | table t => .ok t.rows.length

/-- The orders changed at a time or later, and the source after it was asked. -/
def fetchChangedSince (since : Timestamp) : OrderSource → Except Failure (List Order) × OrderSource
  | memory m => (m.answer m.all, memory (match m.fault with
      | some _ => m
      | none => { m with asked := m.asked ++ [since] }))
  | table t => ((t.changedAfter since).map fun rows => rows.map OrderRow.toOrder, table t)

end OrderSource

end OrderRetrieval

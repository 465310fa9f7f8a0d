import OrderRetrieval.Document.Value

/-!
# Totals over documents

The sum, mean and extremes of the amounts and the earliest and latest creation of some documents.
-/

namespace OrderRetrieval

open Calendar (Moment)

/-- The first of the greatest elements under a comparison that says when one exceeds another. -/
def extreme? {α : Type} (exceeds : α → α → Bool) : List α → Option α
  | [] => none
  | a :: as => some (as.foldl (fun best b => if exceeds b best then b else best) a)

/-- The earliest and the latest of some moments. -/
structure MomentRange where
  earliest : Moment
  latest : Moment
deriving DecidableEq

/-- The range of some moments, if there are any. -/
def MomentRange.of? (ms : List Moment) : Option MomentRange :=
  match extreme? (fun a b => a.micros < b.micros) ms,
    extreme? (fun a b => b.micros < a.micros) ms with
  | some a, some b => some ⟨a, b⟩
  | _, _ => none

/-- The moments at which some orders were created, as far as they are known. -/
def createdMoments (ds : List Document) : Except Failure (List Moment) :=
  (ds.mapM Document.createdMoment?).map fun ms => ms.filterMap id

/-- The range in which some orders were created. -/
def dateRange (ds : List Document) : Except Failure (Option MomentRange) :=
  (createdMoments ds).map MomentRange.of?

/-- Totals over some orders. -/
structure Aggregate where
  count : Nat
  sum : Float
  mean : Option Float
  least : Option Float
  greatest : Option Float
  created : Option MomentRange

/-- The sum of amounts, from the left. -/
def sumAmounts (xs : List Float) : Float := xs.foldl (· + ·) 0

/-- The totals of some orders. -/
def aggregate (ds : List Document) : Except Failure Aggregate :=
  (dateRange ds).map fun created =>
    let amounts := ds.map Document.totalAmount
    let sum := sumAmounts amounts
    { count := ds.length
      sum
      mean := if ds.isEmpty then none else some (sum / Float.ofNat ds.length)
      least := extreme? Double.lt amounts
      greatest := extreme? (fun a b => Double.lt b a) amounts
      created }

end OrderRetrieval

import OrderRetrieval.Notice
import OrderRetrieval.Query.Basic
import OrderRetrieval.Sorting.Adaptive
import OrderRetrieval.Sorting.Cell

/-!
# Sorting by several keys

Items are sorted by the keys in turn, and items that agree in all of them keep their order.  A key
that names no field stands for newest first.
-/

namespace OrderRetrieval

/-- A document with its relevance score. -/
structure Scored (σ : Type) where
  document : Document
  score : σ

namespace Sorting

/-- What a sort key looks at. -/
inductive Subject where
  | relevance
  | field (f : Field)
deriving DecidableEq, Repr

/-- A sort key. -/
structure Key where
  subject : Subject
  descending : Bool
deriving DecidableEq, Repr

/-- The name of the relevance score among sort keys. -/
def relevanceName : String := "relevance"

/-- The sort key that a query means, and what is to be noted about it. -/
def Key.ofSpec (spec : SortSpec) : Key × List Notice :=
  let descending := spec.direction == .descending
  if spec.field = relevanceName then (⟨.relevance, descending⟩, [])
  else match Field.ofName? spec.field with
    | some f => (⟨.field f, descending⟩, [])
    | none => (⟨.field .createdAt, true⟩, [.unknownSortKey spec.field])

/-- The sort keys of a query; without any, newest first. -/
def keys (specs : List SortSpec) : List Key :=
  (if specs.isEmpty then [.newestFirst] else specs).map fun spec => (Key.ofSpec spec).1

/-- What is to be noted about the sort keys of a query. -/
def notices (specs : List SortSpec) : List Notice := specs.flatMap fun spec => (Key.ofSpec spec).2

variable {σ : Type}

/-- The cell of an item under a key. -/
def Key.cell (k : Key) (item : Scored σ) : Except Failure (Cell σ) :=
  match k.subject with
  | .relevance => .ok (.relevance item.score)
  | .field f => (item.document.key f).map Cell.ofValue

/-- The cells of an item. -/
def row (ks : List Key) (item : Scored σ) : Row σ := ks.map fun k => (k.descending, k.cell item)

/-- The first obstacle that sorting some rows meets. -/
def obstacle? (compareScores : σ → σ → Ordering) (rows : List (Row σ)) : Option Failure :=
  if rows.any Row.isFragile then
    match sortAdaptively (Row.before compareScores) rows with
    | .error e => some e
    | .ok _ => none
  else none

/-- Items in the order of their keys, those that agree in all of them in the order given.

An amount that is not a number is neither less than another nor greater nor the same.  With such
amounts the comparison is no order, and the items may stand differently here than `sortAdaptively`
would leave them; a sort does not promise anything then, and no result rests on how they stand. -/
def sortRows (compareScores : σ → σ → Ordering) (rows : List (Row σ × Scored σ)) :
    List (Scored σ) :=
  (rows.mergeSort fun a b => a.1.order compareScores b.1 != .gt).map Prod.snd

/-- Sort items by the keys of a query. -/
def sort (compareScores : σ → σ → Ordering) (specs : List SortSpec) (items : List (Scored σ)) :
    Except Failure (List (Scored σ)) :=
  let rows := items.map fun item => (row (keys specs) item, item)
  match obstacle? compareScores (rows.map Prod.fst) with
  | some e => .error e
  | none => .ok (sortRows compareScores rows)

end Sorting

end OrderRetrieval

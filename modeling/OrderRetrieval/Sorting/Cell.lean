import OrderRetrieval.Document.Value
import OrderRetrieval.Text.Case

/-!
# What sorting compares

For every sort key an item has a cell, and items are compared cell by cell.  Missing cells come
last in either direction.  Texts are compared without regard to case and then as they are, both by
code points, and only texts without a NUL can be compared.
-/

namespace OrderRetrieval.Sorting

/-- What an item holds under a sort key; `σ` is the type of its relevance score. -/
inductive Cell (σ : Type) where
  | missing
  | text (folded plain : String)
  | amount (x : Float)
  | moment (micros : Nat)
  | relevance (score : σ)

variable {σ : Type}

/-- The cell for a key of a document. -/
def Cell.ofValue : Value → Cell σ
  | .missing => .missing
  | .text s => .text (Text.fold s) s
  | .amount x => .amount x
  | .moment m => .moment m.micros
  | .blob b => .text (Text.fold (Value.blobText b)) (Value.blobText b)

/-- Whether the cell is missing. -/
def Cell.isMissing : Cell σ → Bool
  | .missing => true
  | _ => false

/-- Whether the cell is a text that cannot be compared. -/
def Cell.hasNul : Cell σ → Bool
  | .text _ plain => plain.toList.contains '\x00'
  | _ => false

/-- The order of doubles; one that is not a number counts as equal to every other. -/
def compareDoubles (x y : Float) : Ordering :=
  if Double.lt x y then .lt else if Double.lt y x then .gt else .eq

/-- The order of two cells that are not missing. -/
def Cell.compare (compareScores : σ → σ → Ordering) : Cell σ → Cell σ → Ordering
  | .text f p, .text g q => (Ord.compare f g).then (Ord.compare p q)
  | .amount x, .amount y => compareDoubles x y
  | .moment m, .moment n => Ord.compare m n
  | .relevance x, .relevance y => compareScores x y
  | _, _ => .eq

/-- The order of two cells under a sort key.  Where one is missing the direction does not count. -/
def Cell.order (compareScores : σ → σ → Ordering) (descending : Bool) (a b : Cell σ) : Ordering :=
  match a.isMissing, b.isMissing with
  | true, true => .eq
  | true, false => .gt
  | false, true => .lt
  | false, false =>
    let o := a.compare compareScores b
    if descending then o.swap else o

/-- A row of cells, each with its direction; a cell that could not be found holds the failure. -/
abbrev Row (σ : Type) := List (Bool × Except Failure (Cell σ))

/-- The order of two rows, in which every cell was found. -/
def Row.order (compareScores : σ → σ → Ordering) : Row σ → Row σ → Ordering
  | (descending, .ok a) :: as, (_, .ok b) :: bs =>
    (a.order compareScores descending b).then (Row.order compareScores as bs)
  | _, _ => .eq

/-- What keeps two rows from being compared, if anything does: a failure or a NUL in a cell that
the comparison reaches. -/
def Row.obstacle? (compareScores : σ → σ → Ordering) : Row σ → Row σ → Option Failure
  | (_, .error e) :: _, _ :: _ => some e
  | (_, .ok _) :: _, (_, .error e) :: _ => some e
  | (descending, .ok a) :: as, (_, .ok b) :: bs =>
    if !a.isMissing && !b.isMissing && (a.hasNul || b.hasNul) then some .embeddedNul
    else if a.order compareScores descending b == .eq then Row.obstacle? compareScores as bs
    else none
  | _, _ => none

/-- Whether the first of two rows stands before the second, unless they cannot be compared. -/
def Row.before (compareScores : σ → σ → Ordering) (a b : Row σ) : Except Failure Bool :=
  match a.obstacle? compareScores b with
  | some e => .error e
  | none => .ok (a.order compareScores b == .lt)

/-- Whether some comparison with the row may meet an obstacle. -/
def Row.isFragile (row : Row σ) : Bool :=
  row.any fun (_, cell) => match cell with
    | .ok c => c.hasNul
    | .error _ => true

end OrderRetrieval.Sorting

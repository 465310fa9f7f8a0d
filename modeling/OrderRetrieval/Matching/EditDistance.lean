import OrderRetrieval.Number.Double

/-!
# Edit distance and similarity

The edit distance of two texts counts the insertions, deletions and substitutions of single
characters that lead from one to the other.  It is found row by row: a row holds the distances of
one prefix of the longer text from every prefix of the shorter.
-/

namespace OrderRetrieval.Matching

section Distance

variable {α : Type} [DecidableEq α]

/-- The rest of the row for one more character `c`, from the entries to its left and above. -/
def rowTail (c : α) (left above : Nat) : List α → List Nat → List Nat
  | d :: ds, next :: row =>
    let entry := min (min (next + 1) (left + 1)) (above + if c = d then 0 else 1)
    entry :: rowTail c entry next ds row
  | _, _ => []

/-- The row for one more character `c` of the first text. -/
def nextRow (t : List α) (row : List Nat) (c : α) : List Nat :=
  match row with
  | first :: rest => (first + 1) :: rowTail c (first + 1) first t rest
  | [] => []

/-- The last entry of the last row, with a row for every character of the first text. -/
def distanceByRows (s t : List α) : Nat :=
  if t.isEmpty then s.length
  else ((s.foldl (nextRow t) (List.range (t.length + 1))).getLast?).getD 0

/-- The least number of insertions, deletions and substitutions between two texts, with the rows
as long as the shorter text. -/
def editDistance (s t : List α) : Nat :=
  if s.length < t.length then distanceByRows t s else distanceByRows s t

end Distance

/-- The length of the longer of two texts. -/
def longerLength (s t : List Char) : Nat := max s.length t.length

/-- One less a distance in proportion to a length, and one if there is no length.  Lengths of texts
stay below 2^53, so they and the distances are doubles themselves. -/
def agreement (distance longest : Nat) : Float :=
  if longest = 0 then 1 else 1 - Float.ofNat distance / Float.ofNat longest

/-- How much two texts agree: one less the distance in proportion to the longer text. -/
def similarity (s t : List Char) : Float := agreement (editDistance s t) (longerLength s t)

end OrderRetrieval.Matching

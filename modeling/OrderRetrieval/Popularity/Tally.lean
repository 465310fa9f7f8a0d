import OrderRetrieval.Coercion

/-!
# Tallies

A tally counts terms and keeps them in the order in which they were first counted.  `mostCommon`
lists the terms by falling count, equal counts in that order.
-/

namespace OrderRetrieval

/-- Terms with their counts, in the order in which the terms were first counted. -/
abbrev Tally := List (String × Nat)

namespace Tally

/-- Count a term once. -/
def add (term : String) : Tally → Tally
  | [] => [(term, 1)]
  | (t, n) :: rest => if t = term then (t, n + 1) :: rest else (t, n) :: add term rest

/-- Count several terms. -/
def addAll (tally : Tally) (terms : List String) : Tally := terms.foldl (fun t s => t.add s) tally

/-- The count of a term. -/
def count (tally : Tally) (term : String) : Nat := (tally.lookup term).getD 0

/-- Every term with its count, by falling count. -/
def ranked (tally : Tally) : Tally := tally.mergeSort fun a b => b.2 ≤ a.2

/-- The terms of the highest counts, as many as allowed; all of them if nothing is said.  Of doubles
only 1 allows a number of terms. -/
def mostCommon (tally : Tally) : Option Quantity → Except Failure Tally
  | none => .ok tally.ranked
  | some (.whole limit) => .ok (tally.ranked.take limit.toNat)
  | some (.double x) =>
    if Double.eq x 1 then .ok (tally.ranked.take 1)
    else .error (if Double.le (Float.ofNat tally.length) x then .notACount else .notWhole)

/-- Keep no more terms than allowed; if there are more, those of the highest counts, which then
stand in the order of their counts. -/
def trim (tally : Tally) (size : Quantity) : Except Failure Tally :=
  if size.lt (.whole tally.length) then tally.mostCommon (some size) else .ok tally

end Tally

end OrderRetrieval

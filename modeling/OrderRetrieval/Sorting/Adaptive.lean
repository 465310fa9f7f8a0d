import OrderRetrieval.Sorting.Merge
import OrderRetrieval.Sorting.Run

/-!
# An adaptive merge sort

The runs of a list are found one after the other and wait to be merged.  Which runs are merged
first is settled by the powers of their borders: a border has the power of the first binary digit in
which the middles of its two runs, as fractions of the whole list, differ.  Comparisons may fail,
and the first failure ends the sort; that is what tells this sort from one by the order alone.
-/

namespace OrderRetrieval.Sorting

variable {α ε : Type}

/-- The first binary digit in which `a / n` and `b / n` differ; the digits looked at are bounded by
the fuel. -/
def borderPower (n : Nat) : Nat → Nat → Nat → Nat
  | 0, _, _ => 0
  | fuel + 1, a, b =>
    if n ≤ a then 1 + borderPower n fuel (2 * (a - n)) (2 * (b - n))
    else if n ≤ b then 1
    else 1 + borderPower n fuel (2 * a) (2 * b)

/-- A run that waits to be merged, with the power of the border after it. -/
structure Waiting (α : Type) where
  run : Array α
  power : Nat

/-- Merge the waiting runs whose borders have a greater power, the last run standing first. -/
def mergePowerful (before : α → α → Except ε Bool) (power : Nat) (enough : Nat) :
    List (Waiting α) → Except ε (Nat × List (Waiting α))
  | last :: previous :: others => do
    if power < previous.power then
      let (enough, run) ← merge before enough previous.run last.run
      let (enough, others) ← mergePowerful before power enough (⟨run, power⟩ :: others)
      .ok (enough, others)
    else .ok (enough, { last with power } :: previous :: others)
  | waiting => .ok (enough, waiting.map fun w => { w with power })
termination_by waiting => waiting.length

/-- Merge all waiting runs, the last run standing first: the last two, unless the one before them is
shorter than the last. -/
def mergeAll (before : α → α → Except ε Bool) (enough : Nat) :
    List (Array α) → Except ε (Array α)
  | [] => .ok #[]
  | [run] => .ok run
  | [last, previous] => (merge before enough previous last).map Prod.snd
  | last :: middle :: first :: others => do
    if first.size < last.size then
      let (enough, run) ← merge before enough first middle
      mergeAll before enough (last :: run :: others)
    else
      let (enough, run) ← merge before enough middle last
      mergeAll before enough (run :: first :: others)
termination_by waiting => waiting.length

/-- Find the runs of what is left of a list of the given length, merging those that wait as their
powers ask. -/
def collect (before : α → α → Except ε Bool) (size : Nat) :
    Nat → Nat → List (Waiting α) → List α → Except ε (Nat × List (Waiting α))
  | 0, enough, waiting, _ => .ok (enough, waiting)
  | _, enough, waiting, [] => .ok (enough, waiting)
  | fuel + 1, enough, waiting, xs => do
    let (run, rest) ← longRun before (runLength 0 size) xs
    let last := (waiting.head?.map fun w => w.run.size).getD 0
    let middle := 2 * (size - xs.length - last) + last
    let power := borderPower size (2 * size) middle (middle + last + run.size)
    let (enough, waiting) ← mergePowerful before power enough waiting
    collect before size fuel enough (⟨run, 0⟩ :: waiting) rest

/-- Sort a list by comparisons that may fail. -/
def sortAdaptively (before : α → α → Except ε Bool) (xs : List α) : Except ε (List α) := do
  let (enough, waiting) ← collect before xs.length xs.length Merging.worthwhile [] xs
  let run ← mergeAll before enough (waiting.map Waiting.run)
  .ok run.toList

end OrderRetrieval.Sorting

/-!
# Runs

An adaptive merge sort cuts its list into runs: stretches that rise already, or fall strictly and
are turned round, and that are lengthened by binary insertion while they are short.  Lists of fewer
than 64 items are a single run.  Comparisons may fail, and the first failure ends the work.
-/

namespace OrderRetrieval.Sorting

variable {α ε : Type}

/-- The first stretch that falls strictly, in rising order, and what follows; the stretch up to now
is given in rising order. -/
def fallingRun (before : α → α → Except ε Bool) (last : α) (run : List α) :
    List α → Except ε (List α × List α)
  | [] => .ok (last :: run, [])
  | x :: xs => do
    if ← before x last then fallingRun before x (last :: run) xs
    else .ok (last :: run, x :: xs)

/-- The first stretch that does not fall and what follows; the stretch up to now is given from its
end. -/
def risingRun (before : α → α → Except ε Bool) (last : α) (run : List α) :
    List α → Except ε (List α × List α)
  | [] => .ok ((last :: run).reverse, [])
  | x :: xs => do
    if ← before x last then .ok ((last :: run).reverse, x :: xs)
    else risingRun before x (last :: run) xs

/-- The first stretch of a list that rises or falls, in rising order, and what follows. -/
def firstRun (before : α → α → Except ε Bool) : List α → Except ε (List α × List α)
  | x :: y :: rest => do
    if ← before y x then fallingRun before y [x] rest else risingRun before y [x] rest
  | short => .ok (short, [])

/-- The place of an item among those of a rising array that lie from `low` to below `high`, after
its equals. -/
def placeIn (before : α → α → Except ε Bool) (run : Array α) (x : α) (low high : Nat) :
    Except ε Nat :=
  if _ : low < high then
    let middle := low + (high - low) / 2
    match run[middle]? with
    | none => .ok low
    | some y => do
      if ← before x y then placeIn before run x low middle
      else placeIn before run x (middle + 1) high
  else .ok low
termination_by high - low

/-- Put an item into its place in a rising array. -/
def insertInto (before : α → α → Except ε Bool) (run : Array α) (x : α) : Except ε (Array α) := do
  let place ← placeIn before run x 0 run.size
  .ok (run.insertIdxIfInBounds place x)

/-- The length to which the runs of a list are brought: all of a short list, and else the leading
six bits of its length, one more if some other bit is set. -/
def runLength (others : Nat) (n : Nat) : Nat :=
  if n < 64 then n + others else runLength (max others (n % 2)) (n / 2)

/-- The first run of a list, brought to at least the given length if there is enough to follow, and
what follows. -/
def longRun (before : α → α → Except ε Bool) (least : Nat) (xs : List α) :
    Except ε (Array α × List α) := do
  let (run, rest) ← firstRun before xs
  let missing := least - run.length
  let run ← (rest.take missing).foldlM (insertInto before) run.toArray
  .ok (run, rest.drop missing)

end OrderRetrieval.Sorting

/-!
# Merging runs

Two neighbouring runs are merged from the end at which the shorter one lies.  While neither wins
for long they are compared item by item; once one has won often enough in a row, the next stretch
of it is found by galloping: looking 1, 3, 7, … places ahead and then halving.  How often is enough
is learned from merge to merge.  Comparisons may fail, and the first failure ends the work.
-/

namespace OrderRetrieval.Sorting

variable {α ε : Type}

/-! ### Galloping -/

/-- Look ahead in growing strides for a place at which the test fails, or the limit: the last place
that passed and the one found. -/
def strides (test : Nat → Except ε Bool) (limit : Nat) : Nat → Nat → Nat → Except ε (Nat × Nat)
  | 0, last, place => .ok (last, min place limit)
  | fuel + 1, last, place => do
    if place < limit then
      if ← test place then strides test limit fuel place (2 * place + 1)
      else .ok (last, place)
    else .ok (last, limit)

/-- The first place from `low` to `high` that fails the test, if all that fail stand after all that
pass. -/
def halve (test : Nat → Except ε Bool) (low high : Nat) : Except ε Nat := do
  if _ : low < high then
    let middle := low + (high - low) / 2
    if ← test middle then halve test (middle + 1) high else halve test low middle
  else .ok low
termination_by high - low

/-- How many of so many places pass a test that first passes and then fails, found outward from a
hint. -/
def gallop (test : Nat → Except ε Bool) (count hint : Nat) : Except ε Nat := do
  if ← test hint then
    let (last, place) ← strides (fun k => test (hint + k)) (count - hint) count 0 1
    halve test (hint + last + 1) (hint + place)
  else
    let fails (k : Nat) := (test (hint - k)).map (!·)
    let (last, place) ← strides fails (hint + 1) count 0 1
    halve test (hint + 1 - place) (hint - last)

/-! ### Merging -/

/-- The end from which two runs are merged. -/
inductive Side where
  | low
  | high
deriving DecidableEq, Repr

/-- The item at that end. -/
def Side.item? : Side → Array α → Option α
  | low, xs => xs[0]?
  | high, xs => xs.back?

/-- So many items from that end, and the others. -/
def Side.split : Side → Nat → Array α → Array α × Array α
  | low, n, xs => (xs.extract 0 n, xs.extract n xs.size)
  | high, n, xs => (xs.extract (xs.size - n) xs.size, xs.extract 0 (xs.size - n))

theorem Side.split_low (n : Nat) (xs : Array α) :
    (Side.low.split n xs).1 ++ (Side.low.split n xs).2 = xs := by
  simp only [Side.split, Array.extract_append_extract, Array.extract_eq_self_iff]
  omega

theorem Side.split_high (n : Nat) (xs : Array α) :
    (Side.high.split n xs).2 ++ (Side.high.split n xs).1 = xs := by
  simp [Side.split]

/-- How many places at that end fall to the same side as the end itself: at the low end those that
pass the test, at the high end those that fail it. -/
def Side.gallop (side : Side) (test : Nat → Except ε Bool) (count : Nat) : Except ε Nat :=
  match side with
  | low => Sorting.gallop test count 0
  | high => (Sorting.gallop test count (count - 1)).map (count - ·)

/-- What is left of two runs, and what has been merged of them. -/
structure Merging (α : Type) where
  left : Array α
  right : Array α
  merged : Array α

namespace Merging

/-- Put a stretch to what has been merged. -/
def put (side : Side) (m : Merging α) (stretch : Array α) : Merging α :=
  match side with
  | .low => { m with merged := m.merged ++ stretch }
  | .high => { m with merged := stretch ++ m.merged }

/-- Move so many items of the left run. -/
def takeLeft (side : Side) (n : Nat) (m : Merging α) : Merging α :=
  let (taken, left) := side.split n m.left
  put side { m with left } taken

/-- Move so many items of the right run. -/
def takeRight (side : Side) (n : Nat) (m : Merging α) : Merging α :=
  let (taken, right) := side.split n m.right
  put side { m with right } taken

/-- Whether the rest needs no comparison: the longer run is used up, or the last item of the shorter
one belongs beyond all others. -/
def isDone : Side → Merging α → Bool
  | .low, m => m.right.isEmpty || m.left.size ≤ 1
  | .high, m => m.left.isEmpty || m.right.size ≤ 1

/-- The two runs as one, once the rest needs no comparison. -/
def result : Side → Merging α → Array α
  | .low, m => m.merged ++ m.right ++ m.left
  | .high, m => m.right ++ m.left ++ m.merged

variable (before : α → α → Except ε Bool)

/-- Move the stretch of the left run that goes before the item at the end of the right one; its
length. -/
def gallopLeft (side : Side) (m : Merging α) : Except ε (Nat × Merging α) :=
  match side.item? m.right with
  | none => .ok (0, m)
  | some x => do
    let test (i : Nat) := match m.left[i]? with
      | some y => (before x y).map (!·)
      | none => .ok false
    let n ← side.gallop test m.left.size
    .ok (n, m.takeLeft side n)

/-- Move the stretch of the right run that goes before the item at the end of the left one; its
length. -/
def gallopRight (side : Side) (m : Merging α) : Except ε (Nat × Merging α) :=
  match side.item? m.left with
  | none => .ok (0, m)
  | some x => do
    let test (i : Nat) := match m.right[i]? with
      | some y => before y x
      | none => .ok false
    let n ← side.gallop test m.right.size
    .ok (n, m.takeRight side n)

/-- Find a stretch of each run, moving after it the item of the other run that ends it; the lengths
of the stretches. -/
def gallopBoth (side : Side) (m : Merging α) : Except ε (Nat × Nat × Merging α) := do
  let (i, m) ← gallopLeft before side m
  if m.isDone side then return (i, 0, m)
  let m := m.takeRight side 1
  if m.isDone side then return (i, 0, m)
  let (j, m) ← gallopRight before side m
  if m.isDone side then return (i, j, m)
  return (i, j, m.takeLeft side 1)

/-- A stretch of this length is worth galloping for. -/
def worthwhile : Nat := 7

/-- Gallop while it is worthwhile; the wins that are now enough to gallop again. -/
def gallopOn (side : Side) : Nat → Nat → Merging α → Except ε (Nat × Merging α)
  | 0, enough, m => .ok (enough, m)
  | fuel + 1, enough, m => do
    let enough := if 1 < enough then enough - 1 else enough
    let (i, j, m) ← gallopBoth before side m
    if m.isDone side then .ok (enough, m)
    else if worthwhile ≤ i ∨ worthwhile ≤ j then gallopOn side fuel enough m
    else .ok (enough + 1, m)

/-- Compare item by item until one run has won often enough in a row, then gallop, and so on to the
end.  The wins of the runs up to now come before the state. -/
def run (side : Side) :
    Nat → Nat → Nat → Nat → Merging α → Except ε (Nat × Merging α)
  | 0, enough, _, _, m => .ok (enough, m)
  | fuel + 1, enough, lefts, rights, m =>
    match side.item? m.left, side.item? m.right with
    | some x, some y => do
      let takesRight := (← before y x) == (side == .low)
      let m := if takesRight then m.takeRight side 1 else m.takeLeft side 1
      let lefts := if takesRight then 0 else lefts + 1
      let rights := if takesRight then rights + 1 else 0
      if m.isDone side then .ok (enough, m)
      else if enough ≤ max lefts rights then
        let (enough, m) ← gallopOn before side fuel (enough + 1) m
        if m.isDone side then .ok (enough, m) else run side fuel enough 0 0 m
      else run side fuel enough lefts rights m
    | _, _ => .ok (enough, m)

end Merging

/-- Merge two neighbouring rising runs, of which only the parts that overlap are compared item by
item; the wins that are enough to gallop are learned on the way. -/
def merge (before : α → α → Except ε Bool) (enough : Nat) (left right : Array α) :
    Except ε (Nat × Array α) := do
  let whole : Merging α := ⟨left, right, #[]⟩
  let (kept, whole) ← whole.gallopLeft before .low
  if whole.left.isEmpty then return (enough, left ++ right)
  let overlap ← match whole.left.back? with
    | none => .ok right.size
    | some x => gallop (fun i => match right[i]? with
        | some y => before y x
        | none => .ok false) right.size (right.size - 1)
  if overlap = 0 then return (enough, left ++ right)
  let side := if whole.left.size ≤ overlap then Side.low else .high
  let overlapping : Merging α := ⟨whole.left, right.extract 0 overlap, #[]⟩
  let first := match side with
    | .low => overlapping.takeRight .low 1
    | .high => overlapping.takeLeft .high 1
  let (enough, m) ←
    if first.isDone side then .ok (enough, first)
    else Merging.run before side (left.size + right.size) enough 0 0 first
  return (enough, left.extract 0 kept ++ m.result side ++ right.extract overlap right.size)

end OrderRetrieval.Sorting

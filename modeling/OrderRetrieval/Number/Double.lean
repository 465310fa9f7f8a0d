/-!
# Binary floating-point numbers

A double is read through its 64 bits: either not a number, or infinite, or a sign with
`mantissa * 2 ^ exponent`.  Order goes through `rank?`, an integer that grows with the number and
is missing for what is not a number, so every comparison is a comparison of integers.  Powers of two
and of ten have names of their own, which keeps them from being unfolded.
-/

namespace OrderRetrieval

namespace Number

/-- The power of two. -/
def twoTo (n : Nat) : Nat := Nat.pow 2 n

/-- The power of ten. -/
def tenTo (n : Nat) : Nat := Nat.pow 10 n

@[simp] theorem twoTo_zero : twoTo 0 = 1 := rfl

theorem twoTo_succ (n : Nat) : twoTo (n + 1) = twoTo n * 2 := rfl

theorem twoTo_pos (n : Nat) : 0 < twoTo n := by
  induction n with
  | zero => decide
  | succ n ih => rw [twoTo_succ]; omega

end Number

namespace Double

open Number (twoTo)

/-- What the bits of a double stand for. -/
inductive View where
  | notANumber
  | infinite (negative : Bool)
  | finite (negative : Bool) (mantissa : Nat) (exponent : Int)
deriving DecidableEq, Repr

/-- The number that a double stands for. -/
def view (x : Float) : View :=
  let bits := x.toBits.toNat
  let negative := bits / twoTo 63 = 1
  let power : Nat := bits / twoTo 52 % twoTo 11
  let fraction : Nat := bits % twoTo 52
  if power = 2047 then
    if fraction = 0 then .infinite negative else .notANumber
  else if power = 0 then .finite negative fraction (-1074)
  else .finite negative (twoTo 52 + fraction) ((power : Int) - 1075)

/-- The place of a double among all doubles, with both zeros at place 0. -/
def rank? (x : Float) : Option Int :=
  match view x with
  | .notANumber => none
  | _ =>
    let bits := x.toBits.toNat
    some (if bits / twoTo 63 = 1 then -((bits % twoTo 63 : Nat) : Int) else (bits % twoTo 63 : Nat))

/-- Whether the double is no number. -/
def isNotANumber (x : Float) : Bool := (rank? x).isNone

/-- Comparison by rank; what is not a number compares with nothing. -/
def compares (r : Int → Int → Bool) (x y : Float) : Bool :=
  match rank? x, rank? y with
  | some i, some j => r i j
  | _, _ => false

/-- The order of numbers. -/
def le (x y : Float) : Bool := compares (fun i j => i ≤ j) x y

/-- The strict order of numbers. -/
def lt (x y : Float) : Bool := compares (fun i j => i < j) x y

/-- Equality as numbers, which both zeros pass and nothing passes that is not a number. -/
def eq (x y : Float) : Bool := compares (fun i j => i = j) x y

theorem exists_rank {x : Float} (h : isNotANumber x = false) : ∃ i, rank? x = some i := by
  rw [isNotANumber, Option.isNone_eq_false_iff, Option.isSome_iff_exists] at h
  exact h

theorem compares_of_rank {x y : Float} (r : Int → Int → Bool) {i j : Int} (hx : rank? x = some i)
    (hy : rank? y = some j) : compares r x y = r i j := by
  rw [compares, hx, hy]

/-- A zero has no bits but its sign. -/
theorem magnitude_of_rank?_eq_zero {x : Float} (h : rank? x = some 0) :
    x.toBits.toNat % twoTo 63 = 0 := by
  unfold rank? at h
  split at h
  · cases h
  · dsimp only at h
    rw [Option.some.injEq] at h
    split at h <;> omega

theorem le_iff {x y : Float} :
    le x y = true ↔ ∃ i j, rank? x = some i ∧ rank? y = some j ∧ i ≤ j := by
  unfold le compares
  split <;> simp_all

theorem lt_iff {x y : Float} :
    lt x y = true ↔ ∃ i j, rank? x = some i ∧ rank? y = some j ∧ i < j := by
  unfold lt compares
  split <;> simp_all

theorem eq_iff {x y : Float} :
    eq x y = true ↔ ∃ i, rank? x = some i ∧ rank? y = some i := by
  unfold eq compares
  split
  · next i j hi hj => simp [hi, hj, eq_comm]
  · next h =>
    refine ⟨fun c => absurd c (by simp), fun ⟨i, hi, hj⟩ => absurd hj (h i i hi)⟩

theorem le_trans {x y z : Float} (h : le x y = true) (k : le y z = true) : le x z = true := by
  obtain ⟨i, j, hi, hj, hij⟩ := le_iff.1 h
  obtain ⟨j', l, hj', hl, hjl⟩ := le_iff.1 k
  obtain rfl : j = j' := by simp_all
  exact le_iff.2 ⟨i, l, hi, hl, by omega⟩

/-- The integer toward zero from a finite double. -/
def truncate? (x : Float) : Option Int :=
  match view x with
  | .finite negative m e =>
    let size : Nat := if 0 ≤ e then m * twoTo e.toNat else m / twoTo (-e).toNat
    some (if negative then -(size : Int) else size)
  | _ => none

/-- Whether a double is a whole number. -/
def isWhole (x : Float) : Bool :=
  match view x with
  | .finite _ m e => 0 ≤ e || m % twoTo (-e).toNat == 0
  | _ => false

/-- The integer that a whole double equals. -/
def toInt? (x : Float) : Option Int := if isWhole x then truncate? x else none

/-- The greatest integer not above a finite double. -/
def floor? (x : Float) : Option Int :=
  (truncate? x).map fun n => if isWhole x || le 0 x then n else n - 1

/-- Whether the double is one of the two infinities. -/
def isInfinite (x : Float) : Bool :=
  match view x with
  | .infinite _ => true
  | _ => false

/-- The double nearest to an integer, unless the integer is too large for one. -/
def ofInt? (n : Int) : Option Float :=
  let x := Float.ofInt n
  if isInfinite x then none else some x

end Double

end OrderRetrieval

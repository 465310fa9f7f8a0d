import Mathlib.Order.Monotone.Defs
import OrderRetrieval.Proofs.Number.Counting

/-!
# Whole parts of doubles

A greater double has no smaller whole part (`truncate?_mono`): the bits of its size, read as a
number, grow with the size (`sizeOfBits_mono`).
-/

namespace OrderRetrieval.Double

open Number (twoTo)

/-! ## Sizes -/

/-- The size that the bits of a double but its sign stand for, in units of two to the power
-1075. -/
def sizeOfBits (k : Nat) : Nat :=
  if k / twoTo 52 = 0 then k % twoTo 52 * 2 else (twoTo 52 + k % twoTo 52) * twoTo (k / twoTo 52)

theorem twoTo_mono {m n : Nat} (le : m ≤ n) : twoTo m ≤ twoTo n :=
  Nat.pow_le_pow_right (by decide) le

theorem sizeOfBits_le (k : Nat) : sizeOfBits k ≤ twoTo 52 * twoTo (k / twoTo 52 + 1) := by
  have less : k % twoTo 52 < twoTo 52 := Nat.mod_lt _ (Number.twoTo_pos 52)
  unfold sizeOfBits
  split
  · next zero =>
    rw [zero]
    exact Nat.mul_le_mul (Nat.le_of_lt less) (by decide)
  · rw [Number.twoTo_succ (k / twoTo 52), Nat.mul_comm (twoTo (k / twoTo 52)), ← Nat.mul_assoc]
    exact Nat.mul_le_mul_right _ (by omega)

theorem le_sizeOfBits {k : Nat} (pos : 0 < k / twoTo 52) :
    twoTo 52 * twoTo (k / twoTo 52) ≤ sizeOfBits k := by
  rw [sizeOfBits, if_neg (Nat.ne_of_gt pos)]
  exact Nat.mul_le_mul_right _ (Nat.le_add_right _ _)

/-- Sizes grow with their bits: with the exponent, and with the digits of the same exponent. -/
theorem sizeOfBits_mono {k l : Nat} (le : k ≤ l) : sizeOfBits k ≤ sizeOfBits l := by
  rcases Nat.lt_or_eq_of_le (Nat.div_le_div_right (c := twoTo 52) le) with less | same
  · calc sizeOfBits k ≤ twoTo 52 * twoTo (k / twoTo 52 + 1) := sizeOfBits_le k
      _ ≤ twoTo 52 * twoTo (l / twoTo 52) := Nat.mul_le_mul_left _ (twoTo_mono less)
      _ ≤ sizeOfBits l := le_sizeOfBits (Nat.zero_lt_of_lt less)
  · have digits : k % twoTo 52 ≤ l % twoTo 52 := by
      have first := Nat.div_add_mod k (twoTo 52)
      have second := Nat.div_add_mod l (twoTo 52)
      rw [same] at first
      omega
    unfold sizeOfBits
    rw [same]
    split
    · exact Nat.mul_le_mul_right _ digits
    · exact Nat.mul_le_mul_right _ (Nat.add_le_add_left digits _)

/-! ## Whole parts -/

/-- The whole part of what a mantissa and a biased exponent make. -/
theorem wholePart_eq (m power : Nat) :
    (if 0 ≤ (power : Int) - 1075 then m * twoTo ((power : Int) - 1075).toNat
      else m / twoTo (-((power : Int) - 1075)).toNat) = m * twoTo power / twoTo 1075 := by
  split
  · next large =>
    have exponent : power = ((power : Int) - 1075).toNat + 1075 := by omega
    conv_rhs => rw [exponent, twoTo_add, ← Nat.mul_assoc]
    exact (Nat.mul_div_cancel _ (Number.twoTo_pos 1075)).symm
  · next small =>
    have exponent : 1075 = (-((power : Int) - 1075)).toNat + power := by omega
    conv_rhs => rw [exponent, twoTo_add]
    exact (Nat.mul_div_mul_right m _ (Number.twoTo_pos power)).symm

/-- A size with its sign. -/
def signed (negative : Bool) (n : Nat) : Int := if negative then -(n : Int) else n

/-- What grows from zero with a size does so on either side of zero. -/
theorem signed_mono {f : Nat → Nat} (mono : Monotone f) (zero : f 0 = 0) {s t : Bool} {k l : Nat}
    (le : signed s k ≤ signed t l) : signed s (f k) ≤ signed t (f l) := by
  cases s with
  | false =>
    cases t with
    | false => exact Int.ofNat_le.2 (mono (Int.ofNat_le.1 le))
    | true =>
      simp only [signed, Bool.false_eq_true, if_false, if_true] at le ⊢
      obtain ⟨rfl, rfl⟩ : k = 0 ∧ l = 0 := by omega
      omega
  | true =>
    cases t with
    | false =>
      simp only [signed, Bool.false_eq_true, if_false, if_true]
      omega
    | true =>
      exact Int.neg_le_neg (Int.ofNat_le.2 (mono (Int.ofNat_le.1 (Int.neg_le_neg_iff.1 le))))

section View

variable {x : Float} {negative : Bool} {m : Nat} {e : Int}

theorem rank?_of_view (shown : view x = .finite negative m e) :
    rank? x = some (signed negative (x.toBits.toNat % twoTo 63)) := by
  have sign : negative = decide (x.toBits.toNat / twoTo 63 = 1) := by
    unfold view at shown
    dsimp only at shown
    split at shown
    · split at shown <;> cases shown
    · split at shown <;> cases shown <;> rfl
  unfold rank?
  rw [shown, sign]
  simp only [signed, decide_eq_true_eq]

/-- The whole part of what is shown is that of the size. -/
theorem wholePart_of_view (shown : view x = .finite negative m e) :
    (if 0 ≤ e then m * twoTo e.toNat else m / twoTo (-e).toNat) =
      sizeOfBits (x.toBits.toNat % twoTo 63) / twoTo 1075 := by
  have power : x.toBits.toNat % twoTo 63 / twoTo 52 = x.toBits.toNat / twoTo 52 % twoTo 11 :=
    Nat.mod_mul_right_div_self _ (twoTo 52) (twoTo 11)
  have fraction : x.toBits.toNat % twoTo 63 % twoTo 52 = x.toBits.toNat % twoTo 52 :=
    Nat.mod_mul_right_mod _ (twoTo 52) (twoTo 11)
  unfold view at shown
  dsimp only at shown
  rw [sizeOfBits, power, fraction]
  split at shown
  · split at shown <;> cases shown
  · split at shown
    · next zero =>
      cases shown
      rw [if_pos zero]
      exact wholePart_eq _ 1
    · next large =>
      cases shown
      rw [if_neg large]
      exact wholePart_eq _ _

end View

/-- The whole part of a double as its sign and its size give it. -/
theorem truncate?_eq {x : Float} {n : Int} (read : truncate? x = some n) :
    ∃ negative k, rank? x = some (signed negative k) ∧
      n = signed negative (sizeOfBits k / twoTo 1075) := by
  cases shown : view x with
  | notANumber => simp [truncate?, shown] at read
  | infinite negative => simp [truncate?, shown] at read
  | finite negative m e =>
    refine ⟨negative, _, rank?_of_view shown, ?_⟩
    simp only [truncate?, shown, wholePart_of_view shown, Option.some.injEq] at read
    exact read.symm

/-- A greater double has no smaller whole part. -/
theorem truncate?_mono {x y : Float} {i j m n : Int} (hx : rank? x = some i) (hy : rank? y = some j)
    (le : i ≤ j) (first : truncate? x = some m) (second : truncate? y = some n) : m ≤ n := by
  obtain ⟨s, k, rank, rfl⟩ := truncate?_eq first
  obtain ⟨t, l, rank', rfl⟩ := truncate?_eq second
  rw [hx, Option.some.injEq] at rank
  rw [hy, Option.some.injEq] at rank'
  rw [rank, rank'] at le
  generalize twoTo 1075 = unit
  have mono : Monotone fun k => sizeOfBits k / unit :=
    fun _ _ le => Nat.div_le_div_right (sizeOfBits_mono le)
  exact signed_mono mono (Nat.zero_div unit) le

end OrderRetrieval.Double

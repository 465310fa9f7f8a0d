import Mathlib
import OrderRetrieval.Coercion

/-!
# Counting with doubles

A double that starts at zero and grows by one counts exactly up to `countLimit` and stays there
(`truncate?_counted`, `lt_countUp_iff`).  The positive whole numbers up to that limit are doubles
with 53 binary digits of which those behind the point are zeros, so adding one to such a double
needs no rounding (`add_whole`).
-/

namespace OrderRetrieval.Double

open Float.Model (UnpackedFloat totalExponent)
open Float.Model.Format (binary64)
open Float.Model.UnpackedFloat (Sign ExtendedMantissa packComponents decreaseExponent
  shiftToTargetExponent shiftToExponent roundWithAccuracy)
open Number (twoTo)

/-- The number up to which doubles count. -/
def countLimit : Nat := twoTo 53

/-- The double that starts at zero and grows by one that many times. -/
def countUp : Nat → Float
  | 0 => 0
  | n + 1 => countUp n + 1

/-- A number as far as doubles count. -/
def counted (n : Nat) : Nat := min n countLimit

theorem counted_pos {n : Nat} (pos : 0 < n) : 0 < counted n := Nat.lt_min.2 ⟨pos, by decide⟩

/-! ## Binary digits -/

section Digits

variable {n k : Nat}

theorem twoTo_add (m n : Nat) : twoTo (m + n) = twoTo m * twoTo n := Nat.pow_add 2 m n

theorem log2_eq_iff (pos : 0 < n) : n.log2 = k ↔ twoTo k ≤ n ∧ n < twoTo (k + 1) :=
  Nat.log2_eq_iff (Nat.ne_of_gt pos)

theorem log2_lt_iff (pos : 0 < n) : n.log2 < k ↔ n < twoTo k := Nat.log2_lt (Nat.ne_of_gt pos)

theorem log2_mul_twoTo (pos : 0 < n) (k : Nat) : (n * twoTo k).log2 = n.log2 + k := by
  induction k with
  | zero => rw [Number.twoTo_zero, Nat.mul_one, Nat.add_zero]
  | succ k ih =>
    have positive : n * twoTo k ≠ 0 := Nat.ne_of_gt (Nat.mul_pos pos (Number.twoTo_pos k))
    rw [Number.twoTo_succ, ← Nat.mul_assoc, Nat.mul_comm _ 2, Nat.log2_two_mul positive, ih]
    rfl

/-- The 53 leading binary digits of a number, filled up with zeros if it has fewer. -/
def significand (n : Nat) : Nat := n * twoTo 52 / twoTo n.log2

variable (pos : 0 < n) (le : n ≤ countLimit)

include pos le

theorem log2_le : n.log2 ≤ 53 := by
  have less : n < twoTo 54 := Nat.lt_of_le_of_lt le (by decide)
  exact Nat.le_of_lt_succ ((log2_lt_iff pos).2 less)

theorem significand_mul : significand n * twoTo n.log2 = n * twoTo 52 := by
  refine Nat.div_mul_cancel ?_
  rcases Nat.lt_or_ge n countLimit with small | large
  · have log : n.log2 < 53 := (log2_lt_iff pos).2 small
    exact Nat.dvd_mul_left_of_dvd (Nat.pow_dvd_pow 2 (Nat.le_of_lt_succ log)) n
  · obtain rfl : n = twoTo 53 := Nat.le_antisymm le large
    have log : (twoTo 53).log2 = 53 := by decide
    rw [log]
    exact Nat.dvd_mul_right _ _

theorem log2_significand : (significand n).log2 = 52 := by
  have digits := significand_mul pos le
  obtain ⟨low, high⟩ := (log2_eq_iff pos).1 rfl
  have unit : 0 < twoTo n.log2 := Number.twoTo_pos _
  have lower : twoTo 52 ≤ significand n := by
    refine Nat.le_of_mul_le_mul_right ?_ unit
    rw [digits, Nat.mul_comm]
    exact Nat.mul_le_mul_right _ low
  have upper : significand n < twoTo 53 := by
    refine Nat.lt_of_mul_lt_mul_right (a := twoTo n.log2) ?_
    calc significand n * twoTo n.log2 = n * twoTo 52 := digits
      _ < twoTo (n.log2 + 1) * twoTo 52 := Nat.mul_lt_mul_of_pos_right high (by decide)
      _ = twoTo 53 * twoTo n.log2 := by rw [← twoTo_add, ← twoTo_add]; congr 1; omega
  exact (log2_eq_iff (Nat.lt_of_lt_of_le (by decide) lower)).2 ⟨lower, upper⟩

theorem significand_bounds : twoTo 52 ≤ significand n ∧ significand n < twoTo 53 := by
  have log := log2_significand pos le
  have positive : 0 < significand n := by
    refine Nat.pos_of_ne_zero fun zero => ?_
    rw [zero, Nat.log2_zero] at log
    cases log
  exact (log2_eq_iff positive).1 log

theorem significand_pos : 0 < significand n :=
  Nat.lt_of_lt_of_le (by decide) (significand_bounds pos le).1

end Digits

/-! ## Packed doubles -/

theorem biasedExponent_eq (e : Int) :
    (e + (binary64.exponentBias : Int) + ((52 : Nat) : Int)).toNat = (e + 1075).toNat := by
  simp only [Float.Model.Format.exponentBias]
  omega

/-- The bits of a positive number. -/
theorem toNat_packComponents (exponent : BitVec 11) (digits : BitVec 52) :
    (packComponents binary64 .positive exponent digits).toNat =
      exponent.toNat * twoTo 52 + digits.toNat := by
  rw [packComponents, BitVec.toNat_append, BitVec.toNat_append,
    ← Nat.shiftLeft_add_eq_or_of_lt (BitVec.isLt _),
    ← Nat.shiftLeft_add_eq_or_of_lt (BitVec.isLt _), Sign.toBitVec, Nat.shiftLeft_eq,
    Nat.shiftLeft_eq, BitVec.toNat_ofNat, Nat.zero_mod, Nat.zero_mul, Nat.zero_add]
  rfl

section Packed

variable {m : Nat} {e : Int} (pos : 0 < m) (log : m.log2 = 52) (low : -1074 ≤ e) (high : e ≤ 971)

include pos log in
theorem toNat_digits : (BitVec.ofNat 52 m).toNat = m - twoTo 52 := by
  obtain ⟨lower, upper⟩ := (log2_eq_iff pos).1 log
  have rest : m - twoTo 52 < twoTo 52 := by
    rw [Number.twoTo_succ] at upper
    omega
  rw [BitVec.toNat_ofNat]
  exact (Nat.mod_eq_sub_mod lower).trans (Nat.mod_eq_of_lt rest)

include low high in
theorem toNat_exponent : (BitVec.ofNat 11 (e + 1075).toNat).toNat = (e + 1075).toNat := by
  rw [BitVec.toNat_ofNat]
  exact Nat.mod_eq_of_lt (by omega)

include log low high

/-- The parts into which a normal number is packed. -/
theorem pack_finite : UnpackedFloat.pack binary64 (.finite .positive m e pos) =
    packComponents binary64 .positive (BitVec.ofNat 11 (e + 1075).toNat) (BitVec.ofNat 52 m) := by
  unfold UnpackedFloat.pack
  simp only [biasedExponent_eq, log]
  rw [if_neg (by omega), if_pos (by decide)]

/-- The bits of a normal number: its exponent above its digits but the first. -/
theorem toNat_pack : (UnpackedFloat.pack binary64 (.finite .positive m e pos)).toNat =
    (e + 1075).toNat * twoTo 52 + (m - twoTo 52) := by
  rw [pack_finite pos log low high, toNat_packComponents, toNat_exponent low high,
    toNat_digits pos log]

/-- A normal number is unpacked as it was packed. -/
theorem unpack_pack :
    (Float.Model.pack (.finite .positive m e pos)).unpack = .finite .positive m e pos := by
  obtain ⟨lower, -⟩ := (log2_eq_iff pos).1 log
  have exponent := toNat_exponent low high
  have notTop : BitVec.ofNat 11 (e + 1075).toNat ≠ -1#11 := by
    rw [Ne, ← BitVec.toNat_inj, exponent]
    simp
    omega
  have notBottom : BitVec.ofNat 11 (e + 1075).toNat ≠ 0#11 := by
    rw [Ne, ← BitVec.toNat_inj, exponent]
    simp
    omega
  have digits : (1#1 ++ BitVec.ofNat 52 m).toNat = m := by
    rw [BitVec.toNat_append, ← Nat.shiftLeft_add_eq_or_of_lt (BitVec.isLt _),
      toNat_digits pos log, Nat.shiftLeft_eq]
    exact (congrArg (· + (m - twoTo 52)) (Nat.one_mul _)).trans (Nat.add_sub_cancel' lower)
  change UnpackedFloat.unpack binary64 (UnpackedFloat.pack binary64 (.finite .positive m e pos)) = _
  rw [pack_finite pos log low high]
  unfold UnpackedFloat.unpack
  simp only [UnpackedFloat.unpackMantissa_packComponents,
    UnpackedFloat.unpackExponent_packComponents, UnpackedFloat.unpackSign_packComponents,
    Sign.ofBitVec_toBitVec, if_neg notTop, if_neg notBottom, exponent, digits]
  simp [Float.Model.Format.exponentBias]
  omega

end Packed

/-! ## Rounding what needs no rounding -/

/-- Zeros at the end are shifted out without a trace. -/
theorem shiftRight_exact (m k : Nat) :
    (⟨m * twoTo k, false, false⟩ : ExtendedMantissa) >>> k = ⟨m, false, false⟩ := by
  change k.repeat ExtendedMantissa.shiftRightOne ⟨m * twoTo k, false, false⟩ = _
  induction k generalizing m with
  | zero => rw [Number.twoTo_zero, Nat.mul_one, Nat.repeat]
  | succ k ih =>
    have inner : k.repeat ExtendedMantissa.shiftRightOne ⟨m * twoTo (k + 1), false, false⟩ =
        ⟨m * 2, false, false⟩ := by
      rw [Number.twoTo_succ, Nat.mul_comm (twoTo k), ← Nat.mul_assoc]
      exact ih (m * 2)
    rw [Nat.repeat, inner]
    simp [ExtendedMantissa.shiftRightOne]

section Round

variable {m : Nat} {e : Int} (pos : 0 < m) (log : m.log2 = 52) (low : -1074 ≤ e)

include pos log low

theorem targetExponent_eq (k : Nat) :
    binary64.targetExponent (totalExponent (m * twoTo k) (e - k)) = e := by
  simp only [Float.Model.Format.targetExponent, totalExponent, log2_mul_twoTo pos, log,
    Float.Model.Format.mantissaBits, Float.Model.Format.minExponent]
  omega

theorem shiftToTargetExponent_exact (k : Nat) :
    shiftToTargetExponent binary64 (m * twoTo k) (e - k) .exact = (⟨m, false, false⟩, e) := by
  have amount : (e - (e - k)).toNat = k := by omega
  simp only [shiftToTargetExponent, shiftToExponent, targetExponent_eq pos log low, amount,
    ExtendedMantissa.ofMantissaAndAccuracy, shiftRight_exact]
  congr 1
  omega

/-- Digits of which all beyond the first 53 are zeros are rounded to those 53. -/
theorem roundWithAccuracy_exact (s : Sign) (k : Nat) :
    roundWithAccuracy binary64 s (m * twoTo k) (e - k) .exact = .finite s m e pos := by
  have again : shiftToTargetExponent binary64 m e .exact = (⟨m, false, false⟩, e) := by
    simpa using shiftToTargetExponent_exact pos log low 0
  have unrounded : ExtendedMantissa.roundedMantissa ⟨m, false, false⟩ = m := rfl
  simp only [roundWithAccuracy, shiftToTargetExponent_exact pos log low, unrounded, again]
  rw [dif_neg (Nat.ne_of_gt pos)]

theorem round_exact (k : Nat) :
    UnpackedFloat.round binary64 .positive (m * twoTo k) (e - k) = .finite .positive m e pos := by
  have amount : (e - k - e).toNat = 0 := by omega
  simp only [UnpackedFloat.round, targetExponent_eq pos log low, decreaseExponent, amount,
    Nat.shiftLeft_zero, Int.natCast_zero, Int.sub_zero]
  exact roundWithAccuracy_exact pos log low .positive k

end Round

/-! ## Whole numbers -/

section Whole

variable {n : Nat} (pos : 0 < n) (le : n ≤ countLimit)

/-- A positive whole number as a double that is taken apart. -/
def whole : UnpackedFloat :=
  .finite .positive (significand n) (n.log2 - 52) (significand_pos pos le)

include pos le in
/-- The digits of a whole number, read as a number of the least units. -/
theorem decreaseExponent_whole :
    (decreaseExponent (significand n) (n.log2 - 52) (-52)).1 = n * twoTo 52 := by
  have amount : ((n.log2 : Int) - 52 - -52).toNat = n.log2 := by omega
  simp only [decreaseExponent, amount, Nat.shiftLeft_eq]
  exact significand_mul pos le

theorem normalize_whole :
    UnpackedFloat.normalize binary64 ((n * twoTo 52 : Nat) : Int) (-52) .positive =
      whole pos le := by
  have units : 0 < n * twoTo 52 := Nat.mul_pos pos (Number.twoTo_pos 52)
  have positive : compare ((n * twoTo 52 : Nat) : Int) 0 = .gt := by
    rw [Int.compare_eq_gt]
    omega
  have exponent : (-52 : Int) = (n.log2 : Int) - 52 - n.log2 := by omega
  rw [UnpackedFloat.normalize, positive]
  simp only [Int.toNat_natCast]
  rw [← significand_mul pos le, exponent]
  exact round_exact (significand_pos pos le) (log2_significand pos le) (by omega) n.log2

/-- One more makes the next whole number. -/
theorem add_whole (next : n + 1 ≤ countLimit) :
    UnpackedFloat.add binary64 (whole pos le) (whole Nat.one_pos (by decide)) =
      whole (Nat.succ_pos n) next := by
  have smaller : min ((n.log2 : Int) - 52) ((Nat.log2 1 : Int) - 52) = -52 := by
    have one : Nat.log2 1 = 0 := rfl
    omega
  have units := decreaseExponent_whole pos le
  have unit := decreaseExponent_whole Nat.one_pos (by decide)
  have total : ((n * twoTo 52 : Nat) : Int) + ((1 * twoTo 52 : Nat) : Int) =
      (((n + 1) * twoTo 52 : Nat) : Int) := by
    rw [Nat.one_mul, ← Int.natCast_add, ← Nat.succ_mul]
  rw [← normalize_whole (Nat.succ_pos n) next]
  simp only [whole, UnpackedFloat.add, smaller, units, unit, Sign.apply, total]

/-- Packing a whole number loses nothing. -/
theorem unpack_whole : (Float.Model.pack (whole pos le)).unpack = whole pos le := by
  have log := log2_le pos le
  exact unpack_pack (significand_pos pos le) (log2_significand pos le) (by omega) (by omega)

/-- The bits of a whole number. -/
theorem toNat_pack_whole : (Float.Model.pack (whole pos le)).toBits.toNat =
    (n.log2 + 1023) * twoTo 52 + (significand n - twoTo 52) := by
  have log := log2_le pos le
  have exponent : ((n.log2 : Int) - 52 + 1075).toNat = n.log2 + 1023 := by omega
  have bits := toNat_pack (significand_pos pos le) (log2_significand pos le)
    (e := n.log2 - 52) (by omega) (by omega)
  rw [exponent] at bits
  exact bits

end Whole

/-! ## Counting -/

section Counting

variable {n : Nat} (pos : 0 < n) (le : n ≤ countLimit)

/-- Up to the limit counting is exact. -/
theorem countUp_eq_whole : countUp n = .ofModel (.pack (whole pos le)) := by
  induction n with
  | zero => cases pos
  | succ n ih =>
    rcases Nat.eq_zero_or_pos n with rfl | first
    · rfl
    · have small : n ≤ countLimit := Nat.le_of_succ_le le
      rw [countUp, ih first small]
      change Float.ofModel (.pack (UnpackedFloat.add binary64
        (Float.Model.pack (whole first small)).unpack
        (Float.Model.pack (whole Nat.one_pos (by decide))).unpack)) = _
      rw [unpack_whole, unpack_whole, add_whole first small le]

/-- At the limit one more makes no difference. -/
theorem countUp_of_ge (ge : countLimit ≤ n) : countUp n = countUp countLimit := by
  have exact : countUp countLimit = .ofModel (.pack (whole (by decide) (Nat.le_refl _))) :=
    countUp_eq_whole _ _
  have saturated : countUp countLimit + 1 = countUp countLimit := by
    rw [exact]
    decide +kernel
  obtain ⟨k, rfl⟩ := Nat.exists_eq_add_of_le ge
  induction k with
  | zero => rfl
  | succ k ih => rw [← Nat.add_assoc, countUp, ih (Nat.le_add_right _ k), saturated]

theorem countUp_counted (n : Nat) : countUp n = countUp (counted n) := by
  unfold counted
  rcases Nat.le_total n countLimit with le | ge
  · rw [Nat.min_eq_left le]
  · rw [Nat.min_eq_right ge, countUp_of_ge ge]

/-- The bits of a count as a number. -/
def countBits (n : Nat) : Nat := (n.log2 + 1023) * twoTo 52 + (significand n - twoTo 52)

include pos le

theorem toBits_countUp : (countUp n).toBits.toNat = countBits n := by
  rw [countUp_eq_whole pos le]
  exact toNat_pack_whole pos le

theorem fraction_lt : significand n - twoTo 52 < twoTo 52 := by
  obtain ⟨lower, upper⟩ := significand_bounds pos le
  rw [Number.twoTo_succ] at upper
  omega

theorem countBits_lt : countBits n < twoTo 63 := by
  have log := log2_le pos le
  calc countBits n < (n.log2 + 1023) * twoTo 52 + twoTo 52 :=
        Nat.add_lt_add_left (fraction_lt pos le) _
    _ = (n.log2 + 1024) * twoTo 52 := (Nat.succ_mul _ _).symm
    _ ≤ 2048 * twoTo 52 := Nat.mul_le_mul_right _ (by omega)
    _ = twoTo 63 := by decide

theorem view_countUp : view (countUp n) = .finite false (significand n) (n.log2 - 52) := by
  have log := log2_le pos le
  have sign : countBits n / twoTo 63 = 0 := Nat.div_eq_of_lt (countBits_lt pos le)
  have exponent : countBits n / twoTo 52 % twoTo 11 = n.log2 + 1023 := by
    rw [countBits, Nat.mul_comm, Nat.mul_add_div (Number.twoTo_pos 52),
      Nat.div_eq_of_lt (fraction_lt pos le), Nat.add_zero]
    exact Nat.mod_eq_of_lt (Nat.lt_of_lt_of_le (by omega) (by decide : 2048 ≤ twoTo 11))
  have fraction : countBits n % twoTo 52 = significand n - twoTo 52 := by
    rw [countBits, Nat.mul_comm, Nat.mul_add_mod, Nat.mod_eq_of_lt (fraction_lt pos le)]
  have digits : twoTo 52 + (significand n - twoTo 52) = significand n :=
    Nat.add_sub_cancel' (significand_bounds pos le).1
  have power : ((n.log2 + 1023 : Nat) : Int) - 1075 = n.log2 - 52 := by omega
  unfold view
  simp only [toBits_countUp pos le, sign, exponent, fraction, digits, power]
  rw [if_neg (by omega), if_neg (by omega)]
  rfl

theorem rank?_countUp : rank? (countUp n) = some (countBits n : Int) := by
  have sign : countBits n / twoTo 63 = 0 := Nat.div_eq_of_lt (countBits_lt pos le)
  unfold rank?
  rw [view_countUp pos le]
  simp only [toBits_countUp pos le, sign, Nat.mod_eq_of_lt (countBits_lt pos le)]
  rfl

/-- A number with at most 53 binary digits is filled up with zeros. -/
theorem significand_eq (small : ¬0 ≤ (n.log2 : Int) - 52) :
    significand n = n * twoTo (-((n.log2 : Int) - 52)).toNat := by
  have exponent : (-((n.log2 : Int) - 52)).toNat + n.log2 = 52 := by omega
  refine Nat.eq_of_mul_eq_mul_right (Number.twoTo_pos n.log2) ?_
  rw [significand_mul pos le, Nat.mul_assoc, ← twoTo_add, exponent]

theorem isWhole_countUp : isWhole (countUp n) = true := by
  unfold isWhole
  rw [view_countUp pos le]
  simp only [Bool.or_eq_true, decide_eq_true_eq, beq_iff_eq]
  by_cases large : 0 ≤ (n.log2 : Int) - 52
  · exact .inl large
  · rw [significand_eq pos le large]
    exact .inr (Nat.mul_mod_left _ _)

theorem truncate?_countUp : truncate? (countUp n) = some (n : Int) := by
  have digits := significand_mul pos le
  have log := log2_le pos le
  unfold truncate?
  rw [view_countUp pos le]
  simp only [Bool.false_eq_true, if_false, Option.some.injEq, Int.natCast_inj]
  split
  · next large =>
    have exponent : ((n.log2 : Int) - 52).toNat + 52 = n.log2 := by omega
    refine Nat.eq_of_mul_eq_mul_right (Number.twoTo_pos 52) ?_
    rw [Nat.mul_assoc, ← twoTo_add, exponent, digits]
  · next small =>
    rw [significand_eq pos le small]
    exact Nat.mul_div_cancel n (Number.twoTo_pos _)

/-- A greater count has greater bits. -/
theorem countBits_lt_countBits {m : Nat} (first : 0 < m) (less : m < n) :
    countBits m < countBits n := by
  have small : m ≤ countLimit := Nat.le_trans (Nat.le_of_lt less) le
  have log : m.log2 ≤ n.log2 := by
    refine (Nat.le_log2 (Nat.ne_of_gt pos)).2 ?_
    exact Nat.le_trans (Nat.log2_self_le (Nat.ne_of_gt first)) (Nat.le_of_lt less)
  rcases Nat.lt_or_eq_of_le log with shorter | same
  · calc countBits m < (m.log2 + 1023) * twoTo 52 + twoTo 52 :=
          Nat.add_lt_add_left (fraction_lt first small) _
      _ = (m.log2 + 1024) * twoTo 52 := (Nat.succ_mul _ _).symm
      _ ≤ (n.log2 + 1023) * twoTo 52 := Nat.mul_le_mul_right _ (by omega)
      _ ≤ countBits n := Nat.le_add_right _ _
  · have digits : significand m < significand n := by
      refine Nat.lt_of_mul_lt_mul_right (a := twoTo m.log2) ?_
      rw [significand_mul first small, same, significand_mul pos le]
      exact Nat.mul_lt_mul_of_pos_right less (Number.twoTo_pos 52)
    unfold countBits
    rw [same]
    have lower := (significand_bounds first small).1
    omega

end Counting

/-! ## Reading and comparing counts -/

/-- A count is read back as it is, or as the limit. -/
theorem truncate?_counted {n : Nat} (pos : 0 < n) :
    truncate? (countUp n) = some (counted n : Int) := by
  rw [countUp_counted]
  exact truncate?_countUp (counted_pos pos) (Nat.min_le_right _ _)

/-- Counts are ordered as numbers up to the limit. -/
theorem lt_countUp_iff {m n : Nat} (hm : 0 < m) (hn : 0 < n) :
    lt (countUp m) (countUp n) = true ↔ counted m < counted n := by
  have first : 0 < counted m := counted_pos hm
  have second : 0 < counted n := counted_pos hn
  rw [countUp_counted m, countUp_counted n, lt, compares,
    rank?_countUp first (Nat.min_le_right _ _), rank?_countUp second (Nat.min_le_right _ _)]
  simp only [decide_eq_true_eq, Int.ofNat_lt]
  constructor
  · intro less
    by_contra ge
    rcases Nat.lt_or_eq_of_le (Nat.le_of_not_lt ge) with greater | same
    · have := countBits_lt_countBits first (Nat.min_le_right _ _) second greater
      omega
    · rw [same] at less
      exact Nat.lt_irrefl _ less
  · exact countBits_lt_countBits second (Nat.min_le_right _ _) first

/-- What was counted up is at most the number of times. -/
theorem countUp_le {m n : Nat} (pos : 0 < m) (le : m ≤ n) :
    (Quantity.double (countUp m)).le (.whole n) = true := by
  have first : 0 < counted m := counted_pos pos
  have small : counted m ≤ countLimit := Nat.min_le_right _ _
  have below : counted m ≤ n := Nat.le_trans (Nat.min_le_left _ _) le
  have whole := isWhole_countUp first small
  have read := truncate?_countUp first small
  rw [countUp_counted]
  simp only [Quantity.le, Quantity.lt, Quantity.same, floor?, toInt?, whole, read, Option.map_some,
    Bool.true_or, if_true, Bool.or_eq_true, decide_eq_true_eq, beq_iff_eq, Option.some.injEq]
  omega

/-- Counts that are the same as far as doubles count are equal. -/
theorem eq_countUp {m n : Nat} (pos : 0 < n) (same : counted m = counted n) :
    eq (countUp m) (countUp n) = true := by
  rw [countUp_counted m, countUp_counted n, same]
  have rank := rank?_countUp (counted_pos pos) (Nat.min_le_right _ _)
  exact eq_iff.2 ⟨_, rank, rank⟩

end OrderRetrieval.Double

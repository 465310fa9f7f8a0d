import OrderRetrieval.Proofs.Number.Counting

/-!
# Sums of doubles

A sum that starts at zero is never minus zero (`add_ne_minusZero`): a zero that comes out of an
addition is positive unless both sides are minus zero, and rounding makes no zero out of what is
none (`isSum_round`).  So it makes no difference to such a sum which zero is added to it
(`add_zero_eq`).
-/

namespace OrderRetrieval.Double

open Float.Model (UnpackedFloat totalExponent)
open Float.Model.Format (binary64)
open Float.Model.UnpackedFloat (Sign Accuracy ExtendedMantissa packComponents decreaseExponent
  shiftToTargetExponent shiftToExponent roundWithAccuracy)
open Number (twoTo)

/-- The zero with a sign. -/
def IsMinusZero (x : Float) : Prop := x.toModel.unpack = .zero .negative

/-! ## Numbers that have bits of their own -/

/-- Whether a number that is taken apart is not too long and not too fine to be packed. -/
def Fits : UnpackedFloat → Prop
  | .finite _ m e _ => m < twoTo 53 ∧ -1074 ≤ e
  | _ => True

/-- Whether a sum from zero may come to a number: it fits and is not minus zero. -/
def IsSum (f : UnpackedFloat) : Prop := Fits f ∧ f ≠ .zero .negative

theorem fits_unpack (b : BitVec binary64.numBits) : Fits (UnpackedFloat.unpack binary64 b) := by
  have bias : (binary64.exponentBias : Int) = 1023 := rfl
  have width : (binary64.mantissaBitsWithoutImplicit : Int) = 52 := rfl
  unfold UnpackedFloat.unpack
  dsimp only
  split
  · split <;> trivial
  · split
    · split
      · trivial
      · exact ⟨Nat.lt_trans (BitVec.isLt _) (by decide), by omega⟩
    · next bottom =>
      have some : (UnpackedFloat.unpackExponent b).toNat ≠ 0 := fun none =>
        bottom (BitVec.eq_of_toNat_eq none)
      exact ⟨BitVec.isLt _, by omega⟩

/-- Only a zero is unpacked as a zero. -/
theorem eq_zero_of_unpack {s t : Sign} {exponent : BitVec 11} {digits : BitVec 52}
    (h : UnpackedFloat.unpack binary64 (packComponents binary64 s exponent digits) = .zero t) :
    s = t ∧ exponent = 0#11 ∧ digits = 0#52 := by
  unfold UnpackedFloat.unpack at h
  simp only [UnpackedFloat.unpackMantissa_packComponents,
    UnpackedFloat.unpackExponent_packComponents, UnpackedFloat.unpackSign_packComponents,
    Sign.ofBitVec_toBitVec] at h
  split at h
  · split at h <;> cases h
  · split at h
    · next bottom =>
      split at h
      · next none =>
        cases h
        exact ⟨rfl, bottom, none⟩
      · cases h
    · cases h

/-- A number is packed as an infinity, with its exponent, or with the least one. -/
theorem pack_finite_cases (s : Sign) {m : Nat} {e : Int} (pos : 0 < m) :
    UnpackedFloat.pack binary64 (.finite s m e pos) = UnpackedFloat.packedInfinity binary64 s ∨
    ((e + 1075).toNat < 2047 ∧ UnpackedFloat.pack binary64 (.finite s m e pos) =
      packComponents binary64 s (BitVec.ofNat 11 (e + 1075).toNat) (BitVec.ofNat 52 m)) ∨
    (m.log2 ≠ 52 ∧ UnpackedFloat.pack binary64 (.finite s m e pos) =
      packComponents binary64 s 0#11 (BitVec.ofNat 52 m)) := by
  unfold UnpackedFloat.pack
  simp only [biasedExponent_eq]
  split
  · exact .inl rfl
  · split
    · exact .inr (.inl ⟨by omega, rfl⟩)
    · next subnormal => exact .inr (.inr ⟨fun log => subnormal (by rw [log]; rfl), rfl⟩)

/-- What fits does not turn into minus zero when it is packed. -/
theorem unpack_pack_ne_minusZero {f : UnpackedFloat} (sum : IsSum f) :
    (Float.Model.pack f).unpack ≠ .zero .negative := by
  intro h
  change UnpackedFloat.unpack binary64 (UnpackedFloat.pack binary64 f) = _ at h
  obtain ⟨fits, above⟩ := sum
  cases f with
  | notANumber => exact absurd (eq_zero_of_unpack h).2.1 (by decide)
  | infinity s => exact absurd (eq_zero_of_unpack h).2.1 (by decide)
  | zero s =>
    obtain ⟨rfl, -, -⟩ := eq_zero_of_unpack h
    exact above rfl
  | finite s m e pos =>
    obtain ⟨short, low⟩ := fits
    rcases pack_finite_cases s pos with large | ⟨normal, eq⟩ | ⟨subnormal, eq⟩
    · rw [large] at h
      exact absurd (eq_zero_of_unpack h).2.1 (by decide)
    · rw [eq] at h
      have bottom := congrArg BitVec.toNat (eq_zero_of_unpack h).2.1
      rw [BitVec.toNat_ofNat, Nat.mod_eq_of_lt (by omega)] at bottom
      change _ = 0 at bottom
      omega
    · rw [eq] at h
      have log : m.log2 < 53 := (log2_lt_iff pos).2 short
      have shorter : m < 2 ^ 52 := (log2_lt_iff pos).1 (by omega)
      have none := congrArg BitVec.toNat (eq_zero_of_unpack h).2.2
      rw [BitVec.toNat_ofNat, Nat.mod_eq_of_lt shorter] at none
      exact Nat.ne_of_gt pos none

/-! ## Rounding keeps what is not zero -/

theorem mantissa_shiftRight (em : ExtendedMantissa) (k : Nat) :
    (em >>> k).mantissa = em.mantissa / twoTo k := by
  change (k.repeat ExtendedMantissa.shiftRightOne em).mantissa = _
  induction k with
  | zero => rw [Number.twoTo_zero, Nat.div_one, Nat.repeat]
  | succ k ih =>
    rw [Nat.repeat, ExtendedMantissa.shiftRightOne, ih, Nat.div_div_eq_div_mul, Number.twoTo_succ,
      Nat.mul_comm]

theorem mantissa_ofMantissaAndAccuracy (m : Nat) (a : Accuracy) :
    (ExtendedMantissa.ofMantissaAndAccuracy m a).mantissa = m := by
  unfold ExtendedMantissa.ofMantissaAndAccuracy
  split <;> rfl

theorem le_roundedMantissa (em : ExtendedMantissa) : em.mantissa ≤ em.roundedMantissa := by
  unfold ExtendedMantissa.roundedMantissa Accuracy.roundToNearestEven
  split <;> omega

/-- The leading 53 digits of a positive number. -/
theorem leading_bounds {m : Nat} (pos : 0 < m) :
    0 < m / twoTo (m.log2 - 52) ∧ m / twoTo (m.log2 - 52) < twoTo 53 := by
  obtain ⟨lower, upper⟩ := (log2_eq_iff pos).1 rfl
  constructor
  · refine Nat.div_pos (Nat.le_trans ?_ lower) (Number.twoTo_pos _)
    exact Nat.pow_le_pow_right (by decide) (Nat.sub_le _ _)
  · refine Nat.div_lt_of_lt_mul (Nat.lt_of_lt_of_le upper ?_)
    rw [← twoTo_add]
    exact Nat.pow_le_pow_right (by decide) (by omega)

section Round

variable {m : Nat} {e : Int} (pos : 0 < m) (low : -1074 ≤ e)

include pos low

/-- Shifting leaves at most 53 digits, and at least one. -/
theorem shiftToTargetExponent_bounds (a : Accuracy) :
    0 < (shiftToTargetExponent binary64 m e a).1.mantissa ∧
      (shiftToTargetExponent binary64 m e a).1.mantissa < twoTo 53 ∧
      -1074 ≤ (shiftToTargetExponent binary64 m e a).2 := by
  have amount : (binary64.targetExponent (totalExponent m e) - e).toNat = m.log2 - 52 := by
    simp only [Float.Model.Format.targetExponent, totalExponent, Float.Model.Format.mantissaBits,
      Float.Model.Format.minExponent]
    omega
  obtain ⟨some, short⟩ := leading_bounds pos
  simp only [shiftToTargetExponent, shiftToExponent, amount, mantissa_shiftRight,
    mantissa_ofMantissaAndAccuracy]
  exact ⟨some, short, by omega⟩

theorem isSum_roundWithAccuracy (s : Sign) (a : Accuracy) :
    IsSum (roundWithAccuracy binary64 s m e a) := by
  obtain ⟨some, -, first⟩ := shiftToTargetExponent_bounds pos low a
  obtain ⟨rest, short, second⟩ := shiftToTargetExponent_bounds
    (Nat.lt_of_lt_of_le some (le_roundedMantissa _)) first .exact
  simp only [roundWithAccuracy]
  rw [dif_neg (Nat.ne_of_gt rest)]
  exact ⟨⟨short, second⟩, UnpackedFloat.noConfusion⟩

/-- A positive number of not too fine units is not rounded to zero. -/
theorem isSum_round (s : Sign) : IsSum (UnpackedFloat.round binary64 s m e) := by
  have least : -1074 ≤ binary64.targetExponent (totalExponent m e) := by
    simp only [Float.Model.Format.targetExponent, Float.Model.Format.mantissaBits,
      Float.Model.Format.minExponent]
    omega
  simp only [UnpackedFloat.round, decreaseExponent]
  refine isSum_roundWithAccuracy ?_ (by omega) s .exact
  rw [Nat.shiftLeft_eq]
  exact Nat.mul_pos pos (Number.twoTo_pos _)

end Round

theorem isSum_normalize (n : Int) {e : Int} (low : -1074 ≤ e) :
    IsSum (UnpackedFloat.normalize binary64 n e .positive) := by
  unfold UnpackedFloat.normalize
  split
  · next negative =>
    rw [Int.compare_eq_lt] at negative
    exact isSum_round (by omega) low .negative
  · exact ⟨trivial, nofun⟩
  · next positive =>
    rw [Int.compare_eq_gt] at positive
    exact isSum_round (by omega) low .positive

/-! ## Adding -/

/-- Whatever is added to a sum, it stays one. -/
theorem isSum_add {a b : UnpackedFloat} (ha : IsSum a) (hb : Fits b) :
    IsSum (UnpackedFloat.add binary64 a b) := by
  obtain ⟨fits, above⟩ := ha
  -- Summands that are no numbers or infinite come first, then zeros, then what is really added.
  unfold UnpackedFloat.add
  split
  · exact ⟨trivial, nofun⟩
  · exact ⟨trivial, nofun⟩
  · split <;> exact ⟨trivial, nofun⟩
  · exact ⟨trivial, nofun⟩
  · exact ⟨trivial, nofun⟩
  · split
    · exact ⟨trivial, above⟩
    · exact ⟨trivial, nofun⟩
  · next notZero => exact ⟨hb, notZero .negative⟩
  · exact ⟨fits, above⟩
  · exact isSum_normalize _ (Int.le_min.2 ⟨fits.2, hb.2⟩)

theorem zero_ne_minusZero : ¬IsMinusZero 0 := by
  intro h
  have unit : (0 : Float).toModel.unpack = .zero .positive := rfl
  cases unit.symm.trans h

/-- A sum is not minus zero if one starts with what is not. -/
theorem add_ne_minusZero {x : Float} (h : ¬IsMinusZero x) (y : Float) : ¬IsMinusZero (x + y) :=
  unpack_pack_ne_minusZero (isSum_add ⟨fits_unpack _, h⟩ (fits_unpack _))

/-- What equals zero is one of the two zeros. -/
theorem unpack_of_eq_zero {x : Float} (h : eq x 0 = true) : ∃ s, x.toModel.unpack = .zero s := by
  obtain ⟨i, hx, hi⟩ := eq_iff.1 h
  have unit : rank? 0 = some 0 := rfl
  obtain rfl : 0 = i := Option.some.inj (unit.symm.trans hi)
  have width : x.toModel.toBits.toBitVec.toNat < twoTo 63 * 2 := BitVec.isLt _
  obtain ⟨k, bits⟩ := Nat.dvd_of_mod_eq_zero (magnitude_of_rank?_eq_zero hx)
  change x.toModel.toBits.toBitVec.toNat = _ at bits
  have sign : k = 0 ∨ k = 1 := by
    rw [bits] at width
    have := Nat.lt_of_mul_lt_mul_left width
    omega
  unfold Float.Model.unpack
  rcases sign with rfl | rfl
  · rw [BitVec.eq_of_toNat_eq (y := 0#64) bits]
    exact ⟨.positive, rfl⟩
  · rw [BitVec.eq_of_toNat_eq (y := BitVec.ofNat 64 (twoTo 63)) bits]
    exact ⟨.negative, rfl⟩

/-- Which zero is added makes no difference to what is not minus zero. -/
theorem add_zero_eq {x z : Float} (h : ¬IsMinusZero x) (zero : eq z 0 = true) : x + z = x + 0 := by
  obtain ⟨s, hz⟩ := unpack_of_eq_zero zero
  have unit : (0 : Float).toModel.unpack = .zero .positive := rfl
  change Float.ofModel (.pack (UnpackedFloat.add binary64 x.toModel.unpack z.toModel.unpack)) =
    Float.ofModel (.pack (UnpackedFloat.add binary64 x.toModel.unpack (0 : Float).toModel.unpack))
  rw [hz, unit]
  unfold IsMinusZero at h
  cases hx : x.toModel.unpack with
  | zero t =>
    cases t with
    | negative => exact absurd hx h
    | positive => cases s <;> rfl
  | _ => rfl

end OrderRetrieval.Double

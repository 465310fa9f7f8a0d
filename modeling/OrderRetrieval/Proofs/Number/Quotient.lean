import OrderRetrieval.Proofs.Number.Sum

/-!
# Quotients of whole numbers

A whole number of at most 53 binary digits is a double (`ofNat_eq_whole`).  The quotient of two such
numbers, of which the first is positive and not greater than the second, is a part of one that is
not too fine (`isPart_div`): rounding never leads past a number of few enough digits.  What such a
part leaves of one is therefore a number from zero to below one (`isRest_sub`, `rank?_one_sub_div`).
-/

namespace OrderRetrieval.Double

open Float.Model (UnpackedFloat totalExponent)
open Float.Model.Format (binary64)
open Float.Model.UnpackedFloat (Sign Accuracy ExtendedMantissa packComponents decreaseExponent
  shiftToTargetExponent shiftToExponent roundWithAccuracy accuracyOfFraction divCore)
open Number (twoTo)

/-! ## Whole numbers as doubles -/

section Whole

variable {n : Nat} (pos : 0 < n) (small : n < countLimit)

include small in
/-- A whole number of at most 53 digits needs no rounding. -/
theorem round_whole : UnpackedFloat.round binary64 .positive n 0 = whole pos small.le := by
  have log : n.log2 < 53 := (log2_lt_iff pos).2 small
  have target : binary64.targetExponent (totalExponent n 0) = (n.log2 : Int) - 52 := by
    simp only [Float.Model.Format.targetExponent, totalExponent, Float.Model.Format.mantissaBits,
      Float.Model.Format.minExponent]
    omega
  have amount : (0 - ((n.log2 : Int) - 52)).toNat = 52 - n.log2 := by omega
  have exponent : (0 : Int) - ((52 - n.log2 : Nat) : Int) = (n.log2 : Int) - 52 := by omega
  have digits : n * twoTo (52 - n.log2) = significand n := by
    refine Nat.eq_of_mul_eq_mul_right (Number.twoTo_pos n.log2) ?_
    rw [significand_mul pos small.le, Nat.mul_assoc, ← twoTo_add, Nat.sub_add_cancel (by omega)]
  have rounded := roundWithAccuracy_exact (significand_pos pos small.le)
    (log2_significand pos small.le) (e := (n.log2 : Int) - 52) (by omega) .positive 0
  rw [Number.twoTo_zero, Nat.mul_one, Int.natCast_zero, Int.sub_zero] at rounded
  simp only [UnpackedFloat.round, target, decreaseExponent, amount, exponent, Nat.shiftLeft_eq]
  exact (congrArg (roundWithAccuracy binary64 .positive · _ .exact) digits).trans rounded

/-- Multiplying a whole number by one changes nothing. -/
theorem mul_whole_one (le : n ≤ countLimit) :
    UnpackedFloat.mul binary64 (whole pos le) (whole Nat.one_pos (by decide)) = whole pos le := by
  have log := log2_le pos le
  have unit : significand 1 = twoTo 52 := by decide
  have exponent :
      (n.log2 : Int) - 52 + ((Nat.log2 1 : Int) - 52) = (n.log2 : Int) - 52 - (52 : Nat) := by
    have one : Nat.log2 1 = 0 := rfl
    omega
  simp only [whole, UnpackedFloat.mul, unit, exponent]
  exact roundWithAccuracy_exact (significand_pos pos le) (log2_significand pos le) (by omega) _ 52

/-- A whole number of at most 53 digits is a double. -/
theorem ofNat_eq_whole : Float.ofNat n = .ofModel (.pack (whole pos small.le)) := by
  have word : n.toUInt64.toNat = n := by
    rw [UInt64.toNat_ofNat']
    exact Nat.mod_eq_of_lt (Nat.lt_trans small (by decide))
  have converted : n.toUInt64.toFloat = .ofModel (.pack (whole pos small.le)) := by
    change Float.ofModel (.pack (UnpackedFloat.normalize binary64 (n.toUInt64.toNat : Int) 0
      .positive)) = _
    rw [word, UnpackedFloat.normalize, Int.compare_eq_gt.2 (by omega)]
    exact congrArg (fun f => Float.ofModel (.pack f)) (round_whole pos small)
  have one : (Float.ofBits 0x3FF0000000000000).toModel.unpack =
      whole Nat.one_pos (by decide) := rfl
  change Float.ofScientific n false 0 = _
  unfold Float.ofScientific
  rw [dif_pos ⟨small, by decide⟩]
  change n.toUInt64.toFloat * Float.ofBits 0x3FF0000000000000 = _
  rw [converted]
  change Float.ofModel (.pack (UnpackedFloat.mul binary64
    (Float.Model.pack (whole pos small.le)).unpack
    (Float.ofBits 0x3FF0000000000000).toModel.unpack)) = _
  rw [unpack_whole, one, mul_whole_one]

end Whole

/-! ## Rounding the digits of a number -/

theorem roundedMantissa_le_succ (em : ExtendedMantissa) :
    em.roundedMantissa ≤ em.mantissa + 1 := by
  unfold ExtendedMantissa.roundedMantissa Accuracy.roundToNearestEven
  split <;> omega

/-- Rounding does not lead past what needs no rounding. -/
theorem roundedMantissa_le {n b k : Nat} (h : n ≤ b * twoTo k) :
    ((⟨n, false, false⟩ : ExtendedMantissa) >>> k).roundedMantissa ≤ b := by
  by_cases whole : ∃ m, n = m * twoTo k
  · obtain ⟨m, rfl⟩ := whole
    rw [shiftRight_exact]
    exact Nat.le_of_mul_le_mul_right h (Number.twoTo_pos k)
  · have less : n < b * twoTo k := Nat.lt_of_le_of_ne h fun same => whole ⟨b, same⟩
    have below : n / twoTo k < b := Nat.div_lt_of_lt_mul (Nat.mul_comm _ b ▸ less)
    refine (roundedMantissa_le_succ _).trans ?_
    rw [mantissa_shiftRight]
    exact below

/-- The leading 53 digits of a number, rounded by what follows them. -/
def leading (m : Nat) (a : Accuracy) : Nat :=
  (ExtendedMantissa.ofMantissaAndAccuracy m a >>> (m.log2 - 52)).roundedMantissa

section Leading

variable {m : Nat} {a : Accuracy} (long : 52 ≤ m.log2)

theorem div_le_leading : m / twoTo (m.log2 - 52) ≤ leading m a := by
  refine Nat.le_trans (Nat.le_of_eq ?_) (le_roundedMantissa _)
  rw [mantissa_shiftRight, mantissa_ofMantissaAndAccuracy]

theorem leading_le_succ : leading m a ≤ m / twoTo (m.log2 - 52) + 1 := by
  refine (roundedMantissa_le_succ _).trans (Nat.le_of_eq ?_)
  rw [mantissa_shiftRight, mantissa_ofMantissaAndAccuracy]

/-- Rounding does not lead past a power of two. -/
theorem leading_le_twoTo {n : Nat} (le : m.log2 - 52 ≤ n) (h : m < twoTo n) :
    leading m a ≤ twoTo (n - (m.log2 - 52)) := by
  refine leading_le_succ.trans (Nat.div_lt_of_lt_mul ?_)
  rw [← twoTo_add, Nat.add_sub_cancel' le]
  exact h

theorem leading_exact_le {b : Nat} (h : m ≤ b * twoTo (m.log2 - 52)) : leading m .exact ≤ b :=
  roundedMantissa_le h

include long

theorem pos_of_long : 0 < m := by
  refine Nat.pos_of_ne_zero ?_
  rintro rfl
  rw [Nat.log2_zero] at long
  omega

/-- The first of the leading 53 digits is not zero. -/
theorem twoTo_le_div : twoTo 52 ≤ m / twoTo (m.log2 - 52) := by
  obtain ⟨lower, -⟩ := (log2_eq_iff (pos_of_long long)).1 rfl
  rw [Nat.le_div_iff_mul_le (Number.twoTo_pos _), ← twoTo_add, Nat.add_sub_cancel' long]
  exact lower

theorem long_leading (a : Accuracy) : 52 ≤ (leading m a).log2 := by
  have digits : twoTo 52 ≤ leading m a := (twoTo_le_div long).trans div_le_leading
  exact (Nat.le_log2 (Nat.ne_of_gt (Nat.lt_of_lt_of_le (Number.twoTo_pos 52) digits))).2 digits

theorem leading_le : leading m a ≤ twoTo 53 :=
  leading_le_succ.trans (leading_bounds (pos_of_long long)).2

/-- Of a number of more than 53 digits just so many are left. -/
theorem log2_div_eq : (m / twoTo (m.log2 - 52)).log2 = 52 :=
  (log2_eq_iff (leading_bounds (pos_of_long long)).1).2
    ⟨twoTo_le_div long, (leading_bounds (pos_of_long long)).2⟩

theorem shiftToTargetExponent_long {e : Int} (low : -1074 ≤ e) (a : Accuracy) :
    shiftToTargetExponent binary64 m e a =
      (ExtendedMantissa.ofMantissaAndAccuracy m a >>> (m.log2 - 52), e + (m.log2 - 52 : Nat)) := by
  have amount : (binary64.targetExponent (totalExponent m e) - e).toNat = m.log2 - 52 := by
    simp only [Float.Model.Format.targetExponent, totalExponent, Float.Model.Format.mantissaBits,
      Float.Model.Format.minExponent]
    omega
  simp only [shiftToTargetExponent, shiftToExponent, amount]

/-- A number of at least 53 digits is rounded to its leading ones, and once more if these have
become one too many. -/
theorem roundWithAccuracy_long {e : Int} (low : -1074 ≤ e) (s : Sign) (a : Accuracy) :
    ∃ pos, roundWithAccuracy binary64 s m e a =
      .finite s (leading m a / twoTo ((leading m a).log2 - 52))
        (e + (m.log2 - 52 : Nat) + ((leading m a).log2 - 52 : Nat)) pos := by
  have again := long_leading long a
  have some := (leading_bounds (pos_of_long again)).1
  refine ⟨some, ?_⟩
  have first := shiftToTargetExponent_long long low a
  have second := shiftToTargetExponent_long again (e := e + (m.log2 - 52 : Nat)) (by omega) .exact
  unfold leading at second some ⊢
  simp only [roundWithAccuracy, first, second, mantissa_shiftRight, mantissa_ofMantissaAndAccuracy]
  rw [dif_neg (Nat.ne_of_gt some)]

end Leading

/-! ## Parts of one -/

/-- Whether a number that is taken apart is a positive part of one and not too fine. -/
def IsPart : UnpackedFloat → Prop
  | .finite .positive m e _ => m.log2 = 52 ∧ -105 ≤ e ∧ m ≤ twoTo (-e).toNat
  | _ => False

theorem IsPart.unpack_pack {f : UnpackedFloat} (part : IsPart f) :
    (Float.Model.pack f).unpack = f := by
  match f, part with
  | .finite .positive m e pos, ⟨log, low, le⟩ =>
    have coarse : e ≤ 971 := by
      by_contra fine
      have none : (-e).toNat = 0 := by omega
      rw [none] at le
      have := ((log2_eq_iff pos).1 log).1
      exact absurd (this.trans le) (by decide)
    exact Double.unpack_pack pos log (by omega) coarse

/-- What is less than one is rounded to a part of one. -/
theorem isPart_round {m n : Nat} (long : 52 ≤ m.log2) (below : m < twoTo n) (few : n ≤ 105)
    (a : Accuracy) : IsPart (roundWithAccuracy binary64 .positive m (-(n : Int)) a) := by
  have digits : m.log2 < n := (log2_lt_iff (pos_of_long long)).2 below
  have again := long_leading long a
  have top : leading m a ≤ twoTo (n - (m.log2 - 52)) := leading_le_twoTo (by omega) below
  have next : leading m a < twoTo (n - (m.log2 - 52) + 1) :=
    Nat.lt_of_le_of_lt top (Nat.pow_lt_pow_right (by decide) (Nat.lt_succ_self _))
  have shift : (leading m a).log2 < n - (m.log2 - 52) + 1 :=
    (log2_lt_iff (pos_of_long again)).2 next
  have exponent : (-(-(n : Int) + (m.log2 - 52 : Nat) + ((leading m a).log2 - 52 : Nat))).toNat =
      n - (m.log2 - 52) - ((leading m a).log2 - 52) := by omega
  obtain ⟨some, rounded⟩ := roundWithAccuracy_long long (e := -(n : Int)) (by omega) .positive a
  rw [rounded]
  refine ⟨log2_div_eq again, by omega, ?_⟩
  rw [exponent]
  refine Nat.div_le_of_le_mul ?_
  rw [← twoTo_add, Nat.add_sub_cancel' (by omega)]
  exact top

section Division

variable {d l : Nat} (pos : 0 < d) (le : d ≤ l) (small : l < countLimit)

/-- The first digits of a quotient. -/
def quotientDigits (d l : Nat) : Nat := significand d * twoTo 53 / significand l

include pos le

theorem log2_le_log2 : d.log2 ≤ l.log2 :=
  (Nat.le_log2 (Nat.ne_of_gt (pos.trans_le le))).2
    ((Nat.log2_self_le (Nat.ne_of_gt pos)).trans le)

include small

theorem long_quotientDigits : 52 ≤ (quotientDigits d l).log2 := by
  have top := (significand_bounds pos (le.trans small.le)).1
  have bottom := (significand_bounds (pos.trans_le le) small.le).2
  have digits : twoTo 52 ≤ quotientDigits d l := by
    rw [quotientDigits, Nat.le_div_iff_mul_le (significand_pos (pos.trans_le le) small.le)]
    exact Nat.mul_le_mul top bottom.le
  exact (Nat.le_log2 (Nat.ne_of_gt (Nat.lt_of_lt_of_le (Number.twoTo_pos 52) digits))).2 digits

/-- The quotient of a number by a greater one is less than one. -/
theorem quotientDigits_lt (less : d < l) :
    quotientDigits d l < twoTo (l.log2 - d.log2 + 53) := by
  have exponents : twoTo (l.log2 - d.log2) * twoTo d.log2 = twoTo l.log2 := by
    rw [← twoTo_add, Nat.sub_add_cancel (log2_le_log2 pos le)]
  refine Nat.div_lt_of_lt_mul (Nat.lt_of_mul_lt_mul_right (a := twoTo d.log2) ?_)
  calc significand d * twoTo 53 * twoTo d.log2
      = d * (twoTo 52 * twoTo 53) := by
        rw [Nat.mul_right_comm, significand_mul pos (le.trans small.le), Nat.mul_assoc]
    _ < l * (twoTo 52 * twoTo 53) := Nat.mul_lt_mul_of_pos_right less (by decide)
    _ = significand l * twoTo l.log2 * twoTo 53 := by
        rw [significand_mul (pos.trans_le le) small.le, Nat.mul_assoc]
    _ = significand l * twoTo (l.log2 - d.log2 + 53) * twoTo d.log2 := by
        rw [twoTo_add, ← exponents]
        ring

theorem divCore_whole :
    divCore binary64 (significand d) (d.log2 - 52) (significand l) (l.log2 - 52) =
      (quotientDigits d l, -((l.log2 - d.log2 + 53 : Nat) : Int),
        accuracyOfFraction (significand d * twoTo 53 % significand l) (significand l)) := by
  have logs := log2_le_log2 pos le
  have log := log2_le (pos.trans_le le) small.le
  have target : binary64.targetExponent (totalExponent (significand d) (d.log2 - 52) -
      totalExponent (significand l) (l.log2 - 52)) = -((l.log2 - d.log2 + 53 : Nat) : Int) := by
    simp only [Float.Model.Format.targetExponent, totalExponent, Float.Model.Format.mantissaBits,
      Float.Model.Format.minExponent, log2_significand pos (le.trans small.le),
      log2_significand (pos.trans_le le) small.le]
    omega
  have least : min ((d.log2 : Int) - 52 - (l.log2 - 52)) (-((l.log2 - d.log2 + 53 : Nat) : Int)) =
      -((l.log2 - d.log2 + 53 : Nat) : Int) := by omega
  have amount : ((d.log2 : Int) - 52 - (l.log2 - 52) -
      -((l.log2 - d.log2 + 53 : Nat) : Int)).toNat = 53 := by omega
  simp only [divCore, target, least, amount, Nat.shiftLeft_eq]
  rfl

/-- The quotient of a positive whole number by one that is not less is a part of one. -/
theorem isPart_div : IsPart (UnpackedFloat.div binary64
    (whole pos (le.trans small.le)) (whole (pos.trans_le le) small.le)) := by
  have log : l.log2 < 53 := (log2_lt_iff (pos.trans_le le)).2 small
  simp only [whole, UnpackedFloat.div, divCore_whole pos le small]
  rcases Nat.lt_or_eq_of_le le with less | rfl
  · exact isPart_round (long_quotientDigits pos le small) (quotientDigits_lt pos le small less)
      (by omega) _
  · have unit : quotientDigits d d = twoTo 52 * twoTo 1 := by
      rw [quotientDigits, Nat.mul_div_cancel_left _ (significand_pos pos small.le)]
      decide
    have exact : accuracyOfFraction (significand d * twoTo 53 % significand d) (significand d) =
        .exact := by
      rw [Nat.mul_mod_right]
      rfl
    have exponent : -((d.log2 - d.log2 + 53 : Nat) : Int) = -52 - (1 : Nat) := by omega
    rw [unit, exact, exponent]
    have one := roundWithAccuracy_exact (Number.twoTo_pos 52) (by decide) (e := -52) (by decide)
      (Sign.positive / Sign.positive) 1
    rw [one]
    exact ⟨by decide, by decide, by decide⟩

end Division

/-! ## What a part leaves of one -/

/-- Whether a number that is taken apart is not negative and less than one. -/
def IsRest : UnpackedFloat → Prop
  | .zero .positive => True
  | .finite .positive _ e _ => e ≤ -53
  | _ => False

/-- What is less than one by no fewer units than it is short of 53 digits stays less than one when
it is rounded. -/
theorem isRest_round {m n : Nat} (pos : 0 < m) (long : 53 ≤ n) (few : n ≤ 105)
    (le : m + twoTo 52 ≤ twoTo n) :
    IsRest (UnpackedFloat.round binary64 .positive m (-(n : Int))) := by
  have log : m.log2 < n := by
    refine (log2_lt_iff pos).2 (Nat.lt_of_lt_of_le ?_ le)
    exact Nat.lt_add_of_pos_right (Number.twoTo_pos 52)
  have target : binary64.targetExponent (totalExponent m (-(n : Int))) = m.log2 - 52 - n := by
    simp only [Float.Model.Format.targetExponent, totalExponent, Float.Model.Format.mantissaBits,
      Float.Model.Format.minExponent]
    omega
  have amount : (-(n : Int) - (m.log2 - 52 - n)).toNat = 52 - m.log2 := by omega
  have digits : (m * twoTo (52 - m.log2)).log2 = m.log2 + (52 - m.log2) := log2_mul_twoTo pos _
  have enough : 52 ≤ (m * twoTo (52 - m.log2)).log2 := by omega
  have again := pos_of_long (long_leading enough .exact)
  obtain ⟨some, rounded⟩ := roundWithAccuracy_long enough
    (e := -(n : Int) - (52 - m.log2 : Nat)) (by omega) .positive .exact
  simp only [UnpackedFloat.round, target, decreaseExponent, amount, Nat.shiftLeft_eq]
  refine (congrArg IsRest rounded).mpr ?_
  change _ ≤ (-53 : Int)
  rcases Nat.lt_or_eq_of_le (Nat.succ_le_of_lt log) with short | full
  · have most : leading (m * twoTo (52 - m.log2)) .exact < twoTo 54 :=
      Nat.lt_of_le_of_lt (leading_le enough) (by decide)
    have := (log2_lt_iff again).2 most
    omega
  · -- There is room below the next power of two, so rounding does not reach it.
    have none : 52 - m.log2 = 0 := by omega
    rw [none, Number.twoTo_zero, Nat.mul_one] at digits again ⊢
    have most : leading m .exact < twoTo 53 := by
      refine Nat.lt_of_le_of_lt (leading_exact_le (b := twoTo 53 - 1) ?_) (by decide)
      have fine : twoTo (m.log2 - 52) ≤ twoTo 52 := Nat.pow_le_pow_right (by decide) (by omega)
      have whole : twoTo 53 * twoTo (m.log2 - 52) = twoTo n := by
        rw [← twoTo_add]
        congr 1
        omega
      rw [Nat.sub_mul, whole, Nat.one_mul]
      omega
    have := (log2_lt_iff again).2 most
    omega

/-- A part of one leaves a number that is not negative and less than one. -/
theorem isRest_sub {f : UnpackedFloat} (part : IsPart f) :
    IsRest (UnpackedFloat.sub binary64 (whole Nat.one_pos (by decide)) f) := by
  match f, part with
  | .finite .positive m e pos, ⟨log, low, le⟩ =>
    obtain ⟨lower, -⟩ := (log2_eq_iff pos).1 log
    have units : 52 ≤ (-e).toNat := by
      by_contra few
      have less : twoTo (-e).toNat < twoTo 52 := Nat.pow_lt_pow_right (by decide) (by omega)
      omega
    obtain ⟨n, rfl⟩ : ∃ n : Nat, e = -(n : Int) := ⟨(-e).toNat, by omega⟩
    have exponent : (-(-(n : Int))).toNat = n := by omega
    rw [exponent] at le units
    have least : min ((Nat.log2 1 : Int) - 52) (-(n : Int)) = -(n : Int) := by
      have one : Nat.log2 1 = 0 := rfl
      omega
    have amount : ((Nat.log2 1 : Int) - 52 - -(n : Int)).toNat = n - 52 := by
      have one : Nat.log2 1 = 0 := rfl
      omega
    have same : (-(n : Int) - -(n : Int)).toNat = 0 := by omega
    have unit : significand 1 <<< (n - 52) = twoTo n := by
      have first : significand 1 = twoTo 52 := by decide
      rw [first, Nat.shiftLeft_eq]
      exact (twoTo_add 52 (n - 52)).symm.trans (congrArg twoTo (Nat.add_sub_cancel' units))
    simp only [whole, UnpackedFloat.sub, least, decreaseExponent, amount, same, unit,
      Nat.shiftLeft_zero, Sign.apply]
    unfold UnpackedFloat.normalize
    split
    · next negative =>
      rw [Int.compare_eq_lt] at negative
      omega
    · trivial
    · next positive =>
      rw [Int.compare_eq_gt] at positive
      have rest : ((twoTo n : Int) - (m : Int)).toNat = twoTo n - m := by omega
      rw [rest]
      refine isRest_round (by omega) ?_ (by omega) (by omega)
      by_contra few
      obtain rfl : n = 52 := by omega
      omega

/-- The bits of what is less than one. -/
theorem toNat_pack_lt {f : UnpackedFloat} (rest : IsRest f) :
    (UnpackedFloat.pack binary64 f).toNat < 1023 * twoTo 52 := by
  match f, rest with
  | .zero .positive, _ => decide
  | .finite .positive m e pos, low =>
    change e ≤ -53 at low
    have digits : (BitVec.ofNat 52 m).toNat < twoTo 52 := BitVec.isLt _
    unfold UnpackedFloat.pack
    simp only [biasedExponent_eq]
    rw [if_neg (by omega)]
    split
    · rw [toNat_packComponents, BitVec.toNat_ofNat, Nat.mod_eq_of_lt (by omega)]
      have top : (e + 1075).toNat ≤ 1022 := by omega
      calc (e + 1075).toNat * twoTo 52 + (BitVec.ofNat 52 m).toNat
          < 1022 * twoTo 52 + twoTo 52 :=
            Nat.add_lt_add_of_le_of_lt (Nat.mul_le_mul_right _ top) digits
        _ = 1023 * twoTo 52 := (Nat.succ_mul 1022 _).symm
    · rw [toNat_packComponents, BitVec.toNat_ofNat, Nat.zero_mod, Nat.zero_mul, Nat.zero_add]
      exact digits.trans (by decide)

/-- The rank of a positive number is its bits. -/
theorem rank?_of_toNat_lt {x : Float} (h : x.toBits.toNat < 1023 * twoTo 52) :
    rank? x = some (x.toBits.toNat : Int) := by
  have bits : x.toBits.toNat < twoTo 63 := h.trans (by decide)
  have sign : x.toBits.toNat / twoTo 63 = 0 := Nat.div_eq_of_lt bits
  have exponent : x.toBits.toNat / twoTo 52 < 1023 :=
    Nat.div_lt_of_lt_mul (Nat.mul_comm _ (twoTo 52) ▸ h)
  have power : x.toBits.toNat / twoTo 52 % twoTo 11 = x.toBits.toNat / twoTo 52 :=
    Nat.mod_eq_of_lt (exponent.trans (by decide))
  have finite : ∃ m e, view x = .finite false m e := by
    unfold view
    simp only [sign, power]
    rw [if_neg (by omega)]
    split
    · exact ⟨_, _, rfl⟩
    · exact ⟨_, _, rfl⟩
  obtain ⟨m, e, hx⟩ := finite
  unfold rank?
  rw [hx]
  simp only [sign, Nat.mod_eq_of_lt bits]
  rfl

/-- One less a zero part is one. -/
theorem one_sub_zero_div {l : Nat} (pos : 0 < l) (small : l < countLimit) :
    1 - Float.ofNat 0 / Float.ofNat l = 1 := by
  have zero : (Float.ofNat 0).toModel.unpack = .zero .positive := rfl
  rw [ofNat_eq_whole pos small]
  change Float.ofModel (.pack (UnpackedFloat.sub binary64 (1 : Float).toModel.unpack
    (Float.Model.pack (UnpackedFloat.div binary64 (Float.ofNat 0).toModel.unpack
      (Float.Model.pack (whole pos small.le)).unpack)).unpack)) = _
  have quotient : UnpackedFloat.div binary64 (.zero .positive) (whole pos small.le) =
      .zero .positive := rfl
  rw [unpack_whole, zero, quotient]
  rfl

/-- One less a quotient of a positive whole number by one that is not less ranks from zero to below
one. -/
theorem rank?_one_sub_div {d l : Nat} (pos : 0 < d) (le : d ≤ l) (small : l < countLimit) :
    ∃ i : Nat, rank? (1 - Float.ofNat d / Float.ofNat l) = some (i : Int) ∧
      i < 1023 * twoTo 52 := by
  have part := isPart_div pos le small
  have difference : 1 - Float.ofNat d / Float.ofNat l =
      .ofModel (.pack (UnpackedFloat.sub binary64 (whole Nat.one_pos (by decide))
        (UnpackedFloat.div binary64 (whole pos (le.trans small.le))
          (whole (pos.trans_le le) small.le)))) := by
    rw [ofNat_eq_whole pos (le.trans_lt small), ofNat_eq_whole (pos.trans_le le) small]
    change Float.ofModel (.pack (UnpackedFloat.sub binary64 (1 : Float).toModel.unpack
      (Float.Model.pack (UnpackedFloat.div binary64
        (Float.Model.pack (whole pos (le.trans small.le))).unpack
        (Float.Model.pack (whole (pos.trans_le le) small.le)).unpack)).unpack)) = _
    rw [unpack_whole, unpack_whole, part.unpack_pack]
    rfl
  have bits := toNat_pack_lt (isRest_sub part)
  rw [difference]
  exact ⟨_, rank?_of_toNat_lt bits, bits⟩

end OrderRetrieval.Double

/-!
# Rounding a quotient to the nearest integer
-/

namespace OrderRetrieval.Number

/-- The integer nearest to `num / den`; a half goes to the even neighbour. -/
def nearest (num den : Nat) : Nat :=
  let q := num / den
  let r := num % den
  if 2 * r < den then q
  else if den < 2 * r then q + 1
  else if q % 2 = 0 then q else q + 1

theorem two_mul_nearest_le (num : Nat) {den : Nat} (h : 0 < den) :
    2 * (den * nearest num den) ≤ 2 * num + den := by
  have hdiv := Nat.div_add_mod num den
  have hlt := Nat.mod_lt num h
  have hmul : den * (num / den + 1) = den * (num / den) + den := by rw [Nat.mul_add, Nat.mul_one]
  unfold nearest
  dsimp only
  split
  · omega
  · split
    · omega
    · split <;> omega

theorem le_two_mul_nearest (num : Nat) {den : Nat} (h : 0 < den) :
    2 * num ≤ 2 * (den * nearest num den) + den := by
  have hdiv := Nat.div_add_mod num den
  have hlt := Nat.mod_lt num h
  have hmul : den * (num / den + 1) = den * (num / den) + den := by rw [Nat.mul_add, Nat.mul_one]
  unfold nearest
  dsimp only
  split
  · omega
  · split
    · omega
    · split <;> omega

/-- The integer nearest to `num / den`; a half goes up. -/
def nearestUp (num den : Nat) : Nat := (2 * num + den) / (2 * den)

theorem two_mul_nearestUp_le (num den : Nat) :
    2 * (den * nearestUp num den) ≤ 2 * num + den := by
  have h := Nat.mul_div_le (2 * num + den) (2 * den)
  rwa [Nat.mul_assoc] at h

theorem lt_two_mul_nearestUp (num : Nat) {den : Nat} (h : 0 < den) :
    2 * num < 2 * (den * nearestUp num den) + den := by
  have hlt := Nat.lt_mul_div_succ (2 * num + den) (show 0 < 2 * den by omega)
  rw [Nat.mul_add, Nat.mul_one, Nat.mul_assoc] at hlt
  unfold nearestUp
  omega

end OrderRetrieval.Number

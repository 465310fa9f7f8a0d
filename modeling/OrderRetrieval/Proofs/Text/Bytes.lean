import Mathlib.Order.Basic

/-!
# The order of bytes

Texts stand in the order of the bytes that spell them (`bytes_lt`): of two characters the one with
the lower code has the lower bytes (`encodeChar_append_lt`).
-/

namespace OrderRetrieval.Text

/-- The bytes that spell a text. -/
def bytes (s : String) : List UInt8 := s.toByteArray.data.toList

theorem bytes_eq (s : String) : bytes s = s.toList.flatMap String.utf8EncodeChar := by
  rw [bytes, ← String.utf8Encode_toList, List.utf8Encode, List.data_toByteArray]

section Byte

variable {m n : Nat} (hm : m < 256) (hn : n < 256)

include hm hn

theorem byte_lt_iff : UInt8.ofNat m < UInt8.ofNat n ↔ m < n := by
  rw [UInt8.lt_iff_toNat_lt, UInt8.toNat_ofNat_of_lt' hm, UInt8.toNat_ofNat_of_lt' hn]

theorem byte_eq_iff : UInt8.ofNat m = UInt8.ofNat n ↔ m = n := by
  rw [← UInt8.toNat_inj, UInt8.toNat_ofNat_of_lt' hm, UInt8.toNat_ofNat_of_lt' hn]

end Byte

/-- Numbers are compared digit by digit to base 64, here with at most four digits. -/
theorem digits_lt {m n : Nat} (less : m < n) :
    m / 262144 < n / 262144 ∨ m / 262144 = n / 262144 ∧ (m / 4096 % 64 < n / 4096 % 64 ∨
      m / 4096 % 64 = n / 4096 % 64 ∧ (m / 64 % 64 < n / 64 % 64 ∨
        m / 64 % 64 = n / 64 % 64 ∧ m % 64 < n % 64)) := by
  have last {m n : Nat} (less : m < n) : m / 64 < n / 64 ∨ m / 64 = n / 64 ∧ m % 64 < n % 64 := by
    omega
  rcases last less with less | same
  · rcases last less with less | same
    · rcases last less with less | same
      · left
        omega
      · omega
    · omega
  · omega

/-- Of two characters the one with the lower code has the lower bytes, whatever follows. -/
theorem encodeChar_append_lt {c d : Char} (less : c < d) (l m : List UInt8) :
    String.utf8EncodeChar c ++ l < String.utf8EncodeChar d ++ m := by
  have codes : c.val.toNat < d.val.toNat := UInt32.lt_iff_toNat_lt.1 less
  have valid : d.val.toNat < 1114112 := by
    rcases d.valid with low | high
    · exact Nat.lt_trans low (by decide)
    · exact high.2
  have digits := digits_lt codes
  generalize hc : c.val.toNat = v at *
  generalize hd : d.val.toNat = w at *
  have top : v / 262144 % 8 = v / 262144 := Nat.mod_eq_of_lt (by omega)
  have top' : w / 262144 % 8 = w / 262144 := Nat.mod_eq_of_lt (by omega)
  simp only [String.utf8EncodeChar, hc, hd, top, top']
  -- One case for each number of bytes of either character: a longer one starts with a higher byte,
  -- and for the same number of bytes the digits decide.
  repeat' split
  all_goals simp (disch := omega) only [List.cons_append, List.nil_append, List.cons_lt_cons_iff,
    byte_lt_iff, byte_eq_iff]
  all_goals omega

theorem flatMap_encodeChar_lt {cs ds : List Char} (less : cs < ds) :
    cs.flatMap String.utf8EncodeChar < ds.flatMap String.utf8EncodeChar := by
  induction cs generalizing ds with
  | nil =>
    cases ds with
    | nil => cases less
    | cons d ds =>
      rw [List.flatMap_nil, List.flatMap_cons]
      cases spelt : String.utf8EncodeChar d with
      | nil => exact absurd spelt String.utf8EncodeChar_ne_nil
      | cons b bs => exact List.nil_lt_cons _ _
  | cons c cs ih =>
    cases ds with
    | nil => cases less
    | cons d ds =>
      rw [List.flatMap_cons, List.flatMap_cons]
      rcases List.cons_lt_cons_iff.1 less with first | ⟨rfl, rest⟩
      · exact encodeChar_append_lt first _ _
      · exact List.append_left_lt (ih rest)

/-- Texts stand in the order of their bytes. -/
theorem bytes_lt {s t : String} (less : s < t) : bytes s < bytes t := by
  rw [bytes_eq, bytes_eq]
  exact flatMap_encodeChar_lt less

end OrderRetrieval.Text

import Mathlib.Data.List.TakeWhile
import OrderRetrieval.Proofs.Text.Letter
import OrderRetrieval.Text.Blank

/-!
# The words of a lower-case text

Lower case neither adds a blank nor takes one away, nor does it leave anything out.  So a text
without blanks is one word in lower case too, and one of nothing but blanks has no words.
-/

namespace OrderRetrieval.Text

/-- The code points of blanks. -/
def blankCodes : List Nat := blankRanges.flatMap fun r => List.range' r.1 (r.2 + 1 - r.1)

/-- No code point with a case is that of a blank. -/
theorem caseCodes_apart : bitsOf caseCodes &&& bitsOf blankCodes = 0 := by
  decide +kernel

theorem mem_blankCodes {n : Nat} (h : (blankRanges.any fun r => r.1 ≤ n && n ≤ r.2) = true) :
    n ∈ blankCodes := by
  obtain ⟨r, mem, inside⟩ := List.any_eq_true.1 h
  rw [Bool.and_eq_true, decide_eq_true_iff, decide_eq_true_iff] at inside
  exact List.mem_flatMap.2 ⟨r, mem, List.mem_range'_1.2 (by omega)⟩

theorem caseCodes_solid :
    ∀ n ∈ caseCodes, (blankRanges.any fun r => r.1 ≤ n && n ≤ r.2) = false := by
  intro n cased
  rw [← Bool.not_eq_true]
  intro blank
  exact notMem_of_land_eq_zero caseCodes_apart (mem_blankCodes blank) cased

theorem caseless_isBlank : Caseless isBlank := caseless_of_apart caseCodes_solid

theorem lowerChars_ne_nil {cs : List Char} (h : cs ≠ []) : lowerChars cs ≠ [] := by
  obtain ⟨c, cs, rfl⟩ := List.exists_cons_of_ne_nil h
  have first : lowerChar false c cs ≠ [] := by
    unfold lowerChar
    split
    · exact List.cons_ne_nil _ _
    · split <;> exact List.cons_ne_nil _ _
  exact List.append_ne_nil_of_left_ne_nil first _

/-- A text without blanks is one word in lower case. -/
theorem words_lowerChars {cs : List Char} (ne : cs ≠ []) (h : ∀ c ∈ cs, isBlank c = false) :
    words (lowerChars cs) = [lowerChars cs] :=
  words_of_no_blank (caseless_isBlank.forall_lowerChars_iff.2 h) (lowerChars_ne_nil ne)

/-! ### Texts of blanks -/

theorem isBlank_of_trim_eq_nil {p : Char → Bool} {cs : List Char} (h : trim p cs = []) :
    ∀ c ∈ cs, p c = true := by
  rw [trim, List.reverse_eq_nil_iff, List.dropWhile_eq_nil_iff] at h
  intro c hc
  rw [← List.takeWhile_append_dropWhile (p := p) (l := cs), List.mem_append] at hc
  rcases hc with first | rest
  · exact List.mem_takeWhile_imp first
  · exact h c (List.mem_reverse.2 rest)

/-- A blank in lower case is a blank. -/
theorem isBlank_lowerChar {c : Char} (h : isBlank c = true) (afterCased : Bool)
    (following : List Char) : ∀ x ∈ lowerChar afterCased c following, isBlank x = true := by
  have notSigma : c ≠ 'Σ' := by
    rintro rfl
    exact absurd h (by decide)
  have notDotted : c ≠ 'İ' := by
    rintro rfl
    exact absurd h (by decide)
  have single : lowerChar afterCased c following = [moveBy Case.lowerRuns c] := by
    rw [lowerChar, if_neg notSigma, if_neg notDotted]
  have caseless := caseless_isBlank afterCased c following
  rw [single, List.forall_mem_singleton] at caseless ⊢
  rwa [← Bool.not_eq_false, caseless, Bool.not_eq_false]

theorem isBlank_lowerChars {cs : List Char} (h : ∀ c ∈ cs, isBlank c = true) :
    ∀ x ∈ lowerChars cs, isBlank x = true := by
  suffices after : ∀ afterCased, ∀ x ∈ lowerAfter afterCased cs, isBlank x = true from after false
  induction cs with
  | nil => exact fun _ => List.forall_mem_nil _
  | cons c cs ih =>
    rw [List.forall_mem_cons] at h
    intro afterCased
    rw [lowerAfter, List.forall_mem_append]
    exact ⟨isBlank_lowerChar h.1 afterCased cs, ih h.2 _⟩

theorem words_of_blank {cs : List Char} (h : ∀ c ∈ cs, isBlank c = true) : words cs = [] := by
  induction cs with
  | nil => rfl
  | cons c cs ih =>
    rw [List.forall_mem_cons] at h
    rw [words, wordsFrom, if_pos h.1]
    exact ih h.2

end OrderRetrieval.Text

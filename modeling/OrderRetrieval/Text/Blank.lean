import OrderRetrieval.Text.Basic

/-!
# Blanks and words

Blanks are the white-space characters of every script together with the four information
separators U+001C to U+001F.  A text falls into its words, the longest stretches without a blank.
Main statements: no word is empty or holds a blank, and a blank between two texts separates their
words (`words_append_blank`).
-/

namespace OrderRetrieval.Text

/-- The ranges of blanks. -/
def blankRanges : List (Nat × Nat) :=
  [(0x9, 0xD), (0x1C, 0x20), (0x85, 0x85), (0xA0, 0xA0), (0x1680, 0x1680), (0x2000, 0x200A),
   (0x2028, 0x2029), (0x202F, 0x202F), (0x205F, 0x205F), (0x3000, 0x3000)]

/-- White space, or an information separator. -/
def isBlank (c : Char) : Bool := inRanges blankRanges c

/-- White space in the narrower sense, which leaves the information separators out. -/
def isSpace (c : Char) : Bool := isBlank c && !(0x1C ≤ c.toNat && c.toNat ≤ 0x1F)

/-- The text without the characters of the class at either end. -/
def trim (p : Char → Bool) (cs : List Char) : List Char :=
  ((cs.dropWhile p).reverse.dropWhile p).reverse

/-- The words of a text whose first word goes on from `run`, held in reverse. -/
def wordsFrom (run : List Char) : List Char → List (List Char)
  | [] => if run.isEmpty then [] else [run.reverse]
  | c :: cs =>
    if isBlank c then (if run.isEmpty then [] else [run.reverse]) ++ wordsFrom [] cs
    else wordsFrom (c :: run) cs

/-- The longest stretches without a blank, from left to right. -/
def words (cs : List Char) : List (List Char) := wordsFrom [] cs

@[simp] theorem words_nil : words [] = [] := rfl

theorem wordsFrom_append_blank (run a b : List Char) {c : Char} (h : isBlank c = true) :
    wordsFrom run (a ++ c :: b) = wordsFrom run a ++ words b := by
  induction a generalizing run with
  | nil => simp [wordsFrom, words, h]
  | cons x a ih =>
    by_cases hx : isBlank x = true
    · simp [wordsFrom, hx, ih]
    · simp [wordsFrom, hx, ih]

theorem words_append_blank (a b : List Char) {c : Char} (h : isBlank c = true) :
    words (a ++ c :: b) = words a ++ words b :=
  wordsFrom_append_blank [] a b h

theorem wordsFrom_of_no_blank (run cs : List Char) (h : ∀ c ∈ cs, isBlank c = false) :
    wordsFrom run cs = if (run.reverse ++ cs).isEmpty then [] else [run.reverse ++ cs] := by
  induction cs generalizing run with
  | nil => cases run <;> simp [wordsFrom]
  | cons c cs ih =>
    have hc : isBlank c = false := h c (by simp)
    have := ih (c :: run) fun d hd => h d (by simp [hd])
    simp [wordsFrom, hc, this]

/-- A text without blanks is its own only word. -/
theorem words_of_no_blank {cs : List Char} (h : ∀ c ∈ cs, isBlank c = false) (ne : cs ≠ []) :
    words cs = [cs] := by
  simp [words, wordsFrom_of_no_blank [] cs h, ne]

theorem ne_nil_of_mem_wordsFrom {run cs w : List Char} (h : w ∈ wordsFrom run cs) : w ≠ [] := by
  induction cs generalizing run with
  | nil => cases run <;> simp_all [wordsFrom]
  | cons c cs ih =>
    by_cases hc : isBlank c = true
    · simp only [wordsFrom, hc, if_true, List.mem_append] at h
      rcases h with h | h
      · cases run <;> simp_all
      · exact ih h
    · simp only [wordsFrom, hc] at h
      exact ih h

theorem ne_nil_of_mem_words {cs w : List Char} (h : w ∈ words cs) : w ≠ [] :=
  ne_nil_of_mem_wordsFrom h

end OrderRetrieval.Text

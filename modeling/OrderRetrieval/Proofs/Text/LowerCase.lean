import OrderRetrieval.Text.Case

/-!
# Lower case of a piece of a text

Lower-casing goes from character to character, and only a capital sigma minds what stands around it.
So the lower case of a piece is the piece of the lower-case text exactly if each capital sigma in it
is final in the whole text or not as it is in the piece alone (`lowerWithin_eq_lowerChars_iff`).  A
piece without a capital sigma is one such, and so is a piece between two separators.
-/

namespace OrderRetrieval.Text

/-- Whether a text ends cased, if what stands before it does or does not. -/
def casedAfter (before : Bool) : List Char → Bool
  | [] => before
  | c :: cs => casedAfter (if isCaseIgnorable c then before else isCased c) cs

@[simp] theorem casedAfter_nil (before : Bool) : casedAfter before [] = before := rfl

theorem casedAfter_append (before : Bool) (cs ds : List Char) :
    casedAfter before (cs ++ ds) = casedAfter (casedAfter before cs) ds := by
  induction cs generalizing before with
  | nil => rfl
  | cons c cs ih => rw [List.cons_append, casedAfter, ih, casedAfter]

/-- Whether a capital sigma is final between two texts. -/
def isFinalSigma (before following : List Char) : Bool :=
  casedAfter false before && !startsCased following

/-- Lower case of a piece of a text, with what stands before it ending cased or not and with the
text that follows. -/
def lowerWithin (before : Bool) (following : List Char) : List Char → List Char
  | [] => []
  | c :: cs =>
    lowerChar before c (cs ++ following) ++
      lowerWithin (if isCaseIgnorable c then before else isCased c) following cs

theorem lowerAfter_append (before : Bool) (cs ds : List Char) :
    lowerAfter before (cs ++ ds) =
      lowerWithin before ds cs ++ lowerAfter (casedAfter before cs) ds := by
  induction cs generalizing before with
  | nil => rfl
  | cons c cs ih =>
    rw [List.cons_append, lowerAfter, lowerWithin, casedAfter, ih, List.append_assoc]

theorem lowerWithin_nil (before : Bool) (cs : List Char) :
    lowerWithin before [] cs = lowerAfter before cs := by
  simpa [lowerAfter] using (lowerAfter_append before cs []).symm

section Piece

variable {p q : Bool} {f g cs : List Char}

theorem length_lowerChar (c : Char) : (lowerChar p c f).length = (lowerChar q c g).length := by
  unfold lowerChar
  split
  · rfl
  · split <;> rfl

/-- Only a capital sigma minds what stands around it. -/
theorem lowerChar_eq_iff {c : Char} :
    lowerChar p c f = lowerChar q c g ↔
      (c = 'Σ' → (p && !startsCased f) = (q && !startsCased g)) := by
  unfold lowerChar
  by_cases sigma : c = 'Σ'
  · rw [if_pos sigma, if_pos sigma, List.cons.injEq, eq_self, and_true]
    cases p && !startsCased f <;> cases q && !startsCased g <;> simp [sigma]
  · simp [sigma]

theorem length_lowerWithin : (lowerWithin p f cs).length = (lowerWithin q g cs).length := by
  induction cs generalizing p q with
  | nil => rfl
  | cons c cs ih => rw [lowerWithin, lowerWithin, List.length_append, List.length_append, ih,
      length_lowerChar c]

theorem length_lowerWithin_eq : (lowerWithin p f cs).length = (lowerChars cs).length := by
  rw [lowerChars, ← lowerWithin_nil]
  exact length_lowerWithin

/-- A piece has the same lower case in two places exactly if its capital sigmas are final in both or
in neither. -/
theorem lowerWithin_eq_iff :
    lowerWithin p f cs = lowerWithin q g cs ↔
      ∀ u w, cs = u ++ 'Σ' :: w →
        (casedAfter p u && !startsCased (w ++ f)) = (casedAfter q u && !startsCased (w ++ g)) := by
  induction cs generalizing p q with
  | nil => simp [lowerWithin]
  | cons c cs ih =>
    rw [lowerWithin, lowerWithin]
    constructor
    · intro same u w split
      obtain ⟨first, rest⟩ := List.append_inj same (length_lowerChar c)
      cases u with
      | nil =>
        cases split
        exact lowerChar_eq_iff.1 first rfl
      | cons d u =>
        cases split
        exact ih.1 rest u w rfl
    · intro same
      have first : lowerChar p c (cs ++ f) = lowerChar q c (cs ++ g) :=
        lowerChar_eq_iff.2 fun sigma => same [] cs (by rw [sigma]; rfl)
      have rest := ih.2 fun u w split => same (c :: u) w (by rw [split]; rfl)
      rw [first, rest]

end Piece

/-- The capital sigmas of the middle of three texts are final in the whole or not as they are in the
middle alone. -/
def KeepsSigmas (a s b : List Char) : Prop :=
  ∀ u w, s = u ++ 'Σ' :: w → isFinalSigma (a ++ u) (w ++ b) = isFinalSigma u w

section Context

variable {a s b : List Char}

theorem lowerWithin_eq_lowerChars_iff :
    lowerWithin (casedAfter false a) b s = lowerChars s ↔ KeepsSigmas a s b := by
  rw [lowerChars, ← lowerWithin_nil, lowerWithin_eq_iff]
  simp only [KeepsSigmas, isFinalSigma, casedAfter_append, List.append_nil]

instance : Decidable (KeepsSigmas a s b) :=
  decidable_of_iff _ lowerWithin_eq_lowerChars_iff

theorem lowerChars_append (a b : List Char) :
    lowerChars (a ++ b) = lowerWithin false b a ++ lowerAfter (casedAfter false a) b :=
  lowerAfter_append false a b

/-- The lower case of a beginning begins the lower-case text exactly if the cut behind it changes no
capital sigma. -/
theorem lowerChars_isPrefix_iff :
    lowerChars s <+: lowerChars (s ++ b) ↔ KeepsSigmas [] s b := by
  rw [← lowerWithin_eq_lowerChars_iff, casedAfter_nil, lowerChars_append]
  have whole :
      lowerWithin false b s <+: lowerWithin false b s ++ lowerAfter (casedAfter false s) b :=
    List.prefix_append _ _
  have length : (lowerWithin false b s).length = (lowerChars s).length := length_lowerWithin_eq
  constructor
  · intro h
    exact (List.prefix_of_prefix_length_le whole h (Nat.le_of_eq length)).eq_of_length length
  · intro same
    rwa [same] at whole ⊢

/-- The lower case of an end ends the lower-case text exactly if the cut before it changes no
capital sigma. -/
theorem lowerChars_isSuffix_iff :
    lowerChars s <:+ lowerChars (a ++ s) ↔ KeepsSigmas a s [] := by
  rw [← lowerWithin_eq_lowerChars_iff, lowerChars_append, ← lowerWithin_nil]
  have whole : lowerWithin (casedAfter false a) [] s <:+
      lowerWithin false s a ++ lowerWithin (casedAfter false a) [] s := List.suffix_append _ _
  have length : (lowerWithin (casedAfter false a) [] s).length = (lowerChars s).length :=
    length_lowerWithin_eq
  constructor
  · intro h
    exact (List.suffix_of_suffix_length_le whole h (Nat.le_of_eq length)).eq_of_length length
  · intro same
    rwa [same] at whole ⊢

/-- The lower case of a piece occurs in the lower-case text if the cuts change no capital sigma. -/
theorem KeepsSigmas.isInfix (h : KeepsSigmas a s b) :
    lowerChars s <:+: lowerChars (a ++ (s ++ b)) := by
  rw [lowerChars_append, lowerAfter_append, lowerWithin_eq_lowerChars_iff.2 h,
    ← List.append_assoc]
  exact List.infix_append _ _ _

theorem keepsSigmas_of_notMem (none : 'Σ' ∉ s) : KeepsSigmas a s b := by
  rintro u w rfl
  exact absurd (List.mem_append_right u List.mem_cons_self) none

/-! ## Separators -/

/-- A character that ends every word, such as a quote. -/
def isSeparator (c : Char) : Bool := !isCaseIgnorable c && !isCased c

theorem casedAfter_separator {c : Char} (h : isSeparator c = true) (before : Bool) :
    casedAfter before [c] = false := by
  simp_all [isSeparator, casedAfter]

theorem startsCased_append_separator {c : Char} (h : isSeparator c = true) (w b : List Char) :
    startsCased (w ++ c :: b) = startsCased w := by
  simp only [isSeparator, Bool.and_eq_true, Bool.not_eq_true'] at h
  unfold startsCased
  rw [List.find?_append, List.find?_cons_of_pos (by rw [h.1]; rfl)]
  cases w.find? fun d => !isCaseIgnorable d with
  | none => simpa using h.2
  | some d => rfl

/-- No cut at a separator changes a capital sigma. -/
theorem keepsSigmas_of_separators {c d : Char} (hc : isSeparator c = true)
    (hd : isSeparator d = true) : KeepsSigmas (a ++ [c]) s (d :: b) := by
  intro u w _
  rw [isFinalSigma, isFinalSigma, startsCased_append_separator hd, casedAfter_append,
    casedAfter_append, casedAfter_separator hc]

/-- A text falls apart at a separator, and lower case with it. -/
theorem lowerChars_append_separator {c : Char} (h : isSeparator c = true) (a b : List Char) :
    lowerChars (a ++ c :: b) = lowerChars a ++ (lowerChars [c] ++ lowerChars b) := by
  have keeps : KeepsSigmas [] a (c :: b) := by
    intro u w _
    rw [isFinalSigma, isFinalSigma, startsCased_append_separator h, List.nil_append]
  have before : lowerWithin false (c :: b) a = lowerChars a := lowerWithin_eq_lowerChars_iff.2 keeps
  have notSigma : c ≠ 'Σ' := by
    rintro rfl
    exact absurd h (by decide +kernel)
  have behind (p : Bool) : lowerAfter p (c :: b) = lowerChars [c] ++ lowerChars b := by
    have first : lowerChar p c b = lowerChar false c [] :=
      lowerChar_eq_iff.2 fun sigma => absurd sigma notSigma
    have plain : casedAfter p [c] = false := casedAfter_separator h p
    rw [casedAfter, casedAfter_nil] at plain
    rw [lowerAfter, plain, first, lowerChars, lowerChars, lowerAfter, lowerAfter, List.append_nil]
  rw [lowerChars_append, before, behind]

end Context

end OrderRetrieval.Text

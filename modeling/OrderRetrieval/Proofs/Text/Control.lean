import OrderRetrieval.Proofs.Text.Letter

/-!
# Texts without controls

A text is clean if it holds none of the characters below the space.  Lower case neither adds a
control nor takes one away (`clean_lowerChars_iff`).
-/

namespace OrderRetrieval.Text

/-- Characters below the space. -/
def isControl (c : Char) : Bool := c.toNat < 0x20

/-- A text without controls. -/
def Clean (cs : List Char) : Prop := ∀ c ∈ cs, isControl c = false

instance (cs : List Char) : Decidable (Clean cs) := List.decidableBAll _ cs

variable {c : Char} {cs ds : List Char}

theorem isControl_eq_false_iff : isControl c = false ↔ 0x20 ≤ c.toNat := by
  rw [isControl, decide_eq_false_iff_not, Nat.not_lt]

@[simp] theorem clean_nil : Clean [] := List.forall_mem_nil _

@[simp] theorem clean_cons : Clean (c :: cs) ↔ isControl c = false ∧ Clean cs :=
  List.forall_mem_cons

@[simp] theorem clean_append : Clean (cs ++ ds) ↔ Clean cs ∧ Clean ds := List.forall_mem_append

theorem Clean.subset (h : Clean ds) (sub : cs ⊆ ds) : Clean cs := fun c mem => h c (sub mem)

theorem clean_replicate (n : Nat) (plain : isControl c = false) : Clean (List.replicate n c) :=
  fun _ mem => (List.eq_of_mem_replicate mem).symm ▸ plain

theorem clean_flatMap {α : Type} {xs : List α} {f : α → List Char} (h : ∀ x ∈ xs, Clean (f x)) :
    Clean (xs.flatMap f) := by
  intro c mem
  obtain ⟨x, hx, hc⟩ := List.mem_flatMap.1 mem
  exact h x hx c hc

/-- No code point with a case is that of a control. -/
theorem caseCodes_above : ∀ n ∈ caseCodes, decide (n < 0x20) = false := by
  decide +kernel

theorem caseless_isControl : Caseless isControl := caseless_of_apart caseCodes_above

/-- A text is clean exactly if its lower case is. -/
theorem clean_lowerChars_iff : Clean (lowerChars cs) ↔ Clean cs :=
  caseless_isControl.forall_lowerChars_iff

end OrderRetrieval.Text

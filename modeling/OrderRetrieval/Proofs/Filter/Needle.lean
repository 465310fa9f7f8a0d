import OrderRetrieval.Proofs.Filter.Select
import OrderRetrieval.Proofs.Text.LowerCase

/-!
# Looking for a piece of a text

A condition looks for a text in the value of a field, both in lower case.  A piece of the value is
found where it stands unless one of the cuts around it makes a capital sigma final or takes that
from it (`Condition.pieces_found`), so a piece without a capital sigma is always found.
-/

namespace OrderRetrieval

open Text (KeepsSigmas lowerChars)

/-- The operators that look for a text. -/
def Operator.seeking : List Operator := [.contains, .notContains, .startsWith, .endsWith]

/-! ## What is accepted of a text -/

theorem textAccepts_contains_iff {s : String} {v : Value} :
    textAccepts .contains (.str s) v = true ↔ lowerChars s.toList <:+: v.lowerText := by
  rw [textAccepts, Datum.text_str, Text.occursIn_iff]

theorem textAccepts_notContains (s : String) (v : Value) :
    textAccepts .notContains (.str s) v = !textAccepts .contains (.str s) v := rfl

theorem textAccepts_startsWith (s : String) (v : Value) :
    textAccepts .startsWith (.str s) v = decide (lowerChars s.toList <+: v.lowerText) := by
  rw [textAccepts, Datum.text_str, Bool.eq_iff_iff, List.isPrefixOf_iff_prefix, decide_eq_true_eq]

theorem textAccepts_endsWith (s : String) (v : Value) :
    textAccepts .endsWith (.str s) v = decide (lowerChars s.toList <:+ v.lowerText) := by
  show (lowerChars (Datum.str s).text.toList).isSuffixOf v.lowerText = _
  rw [Datum.text_str, Bool.eq_iff_iff, List.isSuffixOf_iff_suffix, decide_eq_true_eq]

namespace Condition

/-- The condition on a field with a text for its value. -/
def onText (f : Field) (op : Operator) (needle : String) (k : Combinator) : Condition :=
  ⟨f.name, op.name, .str needle, k⟩

variable {f : Field} {op : Operator} {needle : String} {k : Combinator} {d : Document} {v : Value}
  {found : Bool}

theorem compile_onText (seeks : op ∈ Operator.seeking) (supported : op ∈ f.kind.operators) :
    (onText f op needle k).compile = .ok ⟨f, textAccepts op (.str needle)⟩ := by
  -- Numbers and dates cannot be looked into.
  have textual : f.kind ≠ .numeric ∧ f.kind ≠ .date := by
    generalize f.kind = kind at supported ⊢
    cases kind <;> revert op <;> decide
  have accepts : f.accepts op (.str needle) = .ok (textAccepts op (.str needle)) := by
    unfold Field.accepts
    cases kind : f.kind with
    | numeric => exact absurd kind textual.1
    | date => exact absurd kind textual.2
    | _ => rfl
  rw [compile, onText, resolve_of_mem supported rfl]
  simp only [accepts]
  rfl

/-- A condition that looks for a text answers for every document with a value in the field. -/
theorem answers_onText (seeks : op ∈ Operator.seeking) (supported : op ∈ f.kind.operators)
    (shown : d.value f = .ok v) (accepts : textAccepts op (.str needle) v = found) :
    (onText f op needle k).Answers d found := by
  refine ⟨_, compile_onText seeks supported, ?_⟩
  rw [Test.holds, shown, ← accepts]
  rfl

/-! ## Pieces of a text -/

section Piece

variable {a s b : String}

theorem startsWith_piece :
    textAccepts .startsWith (.str (a ++ s)) (.text (a ++ s ++ b)) =
      decide (KeepsSigmas [] (a ++ s).toList b.toList) := by
  rw [textAccepts_startsWith, decide_eq_decide, ← Text.lowerChars_isPrefix_iff,
    ← String.toList_append]
  rfl

theorem endsWith_piece :
    textAccepts .endsWith (.str (s ++ b)) (.text (a ++ s ++ b)) =
      decide (KeepsSigmas a.toList (s ++ b).toList []) := by
  rw [textAccepts_endsWith, decide_eq_decide, ← Text.lowerChars_isSuffix_iff,
    ← String.toList_append, ← String.append_assoc]
  rfl

theorem contains_piece (keeps : KeepsSigmas a.toList s.toList b.toList) :
    textAccepts .contains (.str s) (.text (a ++ s ++ b)) = true := by
  have inside := keeps.isInfix
  rw [← String.toList_append, ← String.toList_append, ← String.append_assoc] at inside
  exact textAccepts_contains_iff.2 inside

/-- **Looking for a piece of a value.**  In a field of texts whose value is put together from three
texts, the first two are found at the beginning exactly if the cut behind them changes no capital
sigma, and the last two at the end exactly if the cut before them changes none.  The middle is
contained exactly if its lower case is, which it is if the cuts change no capital sigma.  So without
a capital sigma in the value every piece is found. -/
theorem pieces_found (kind : f.kind = .string ∨ f.kind = .nestedPath)
    (shown : d.value f = .ok (.text (a ++ s ++ b))) (k : Combinator) :
    (onText f .startsWith (a ++ s) k).Answers d (KeepsSigmas [] (a ++ s).toList b.toList) ∧
      (onText f .endsWith (s ++ b) k).Answers d (KeepsSigmas a.toList (s ++ b).toList []) ∧
      (∃ found, (onText f .contains s k).Answers d found ∧
        (onText f .notContains s k).Answers d (!found) ∧
        (found = true ↔ lowerChars s.toList <:+: lowerChars (a ++ s ++ b).toList) ∧
        (KeepsSigmas a.toList s.toList b.toList → found = true)) ∧
      ('Σ' ∉ (a ++ s ++ b).toList →
        (onText f .startsWith (a ++ s) k).Answers d true ∧
          (onText f .endsWith (s ++ b) k).Answers d true ∧
          (onText f .contains s k).Answers d true ∧
          (onText f .notContains s k).Answers d false) := by
  have supported : ∀ op ∈ Operator.seeking, op ∈ f.kind.operators := by
    rcases kind with kind | kind <;> rw [kind] <;> decide
  have answers {op : Operator} {needle : String} {found : Bool} (seeks : op ∈ Operator.seeking)
      (accepts : textAccepts op (.str needle) (.text (a ++ s ++ b)) = found) :
      (onText f op needle k).Answers d found :=
    answers_onText seeks (supported op seeks) shown accepts
  refine ⟨answers (by decide) startsWith_piece, answers (by decide) endsWith_piece,
    ⟨_, answers (by decide) rfl, answers (by decide) (textAccepts_notContains s _),
      textAccepts_contains_iff, contains_piece⟩, fun none => ?_⟩
  simp only [String.toList_append, List.mem_append, not_or] at none
  obtain ⟨⟨noneBefore, noneInside⟩, noneBehind⟩ := none
  have contained : textAccepts .contains (.str s) (.text (a ++ s ++ b)) = true :=
    contains_piece (Text.keepsSigmas_of_notMem noneInside)
  refine ⟨answers (by decide) ?_, answers (by decide) ?_, answers (by decide) contained,
    answers (by decide) ?_⟩
  · rw [startsWith_piece, decide_eq_true_eq]
    exact Text.keepsSigmas_of_notMem (by simp [noneBefore, noneInside])
  · rw [endsWith_piece, decide_eq_true_eq]
    exact Text.keepsSigmas_of_notMem (by simp [noneInside, noneBehind])
  · rw [textAccepts_notContains, contained]
    rfl

end Piece

end Condition

namespace Kosmos

/-- A document with a note. -/
def document (notes : String) : Document := { (default : Document) with notes }

end Kosmos

namespace Condition

/-- A piece that ends where its word does is found. -/
theorem pieces_found_odos :
    (Kosmos.document "ΟΔΟΣ 5").value .notes = .ok (.text ("ΟΔ" ++ "ΟΣ" ++ " 5")) ∧
      (onText .notes .startsWith "ΟΔΟΣ" .all).Answers (Kosmos.document "ΟΔΟΣ 5") true ∧
      (onText .notes .endsWith "ΟΣ 5" .all).Answers (Kosmos.document "ΟΔΟΣ 5") true ∧
      (onText .notes .contains "ΟΣ" .all).Answers (Kosmos.document "ΟΔΟΣ 5") true ∧
      (onText .notes .notContains "ΟΣ" .all).Answers (Kosmos.document "ΟΔΟΣ 5") false := by
  have shown : (Kosmos.document "ΟΔΟΣ 5").value .notes = .ok (.text ("ΟΔ" ++ "ΟΣ" ++ " 5")) := rfl
  obtain ⟨begins, ends, ⟨found, contains, lacks, -, keeps⟩, -⟩ := pieces_found (.inl rfl) shown .all
  rw [decide_eq_true (by decide +kernel)] at begins ends
  obtain rfl := keeps (by decide +kernel)
  exact ⟨shown, begins, ends, contains, lacks⟩

/-- The beginning of a word is not found in it if it ends with a capital sigma, which is a final one
in the piece and not in the word. -/
theorem not_pieces_found_kosmos :
    (Kosmos.document "ΚΟΣΜΟΣ").value .notes = .ok (.text ("" ++ "ΚΟΣ" ++ "ΜΟΣ")) ∧
      (onText .notes .startsWith ("" ++ "ΚΟΣ") .all).Answers (Kosmos.document "ΚΟΣΜΟΣ") false ∧
      (onText .notes .contains "ΚΟΣ" .all).Answers (Kosmos.document "ΚΟΣΜΟΣ") false ∧
      (onText .notes .notContains "ΚΟΣ" .all).Answers (Kosmos.document "ΚΟΣΜΟΣ") true :=
  ⟨rfl, answers_onText (by decide) (by decide) rfl (by decide +kernel),
    answers_onText (by decide) (by decide) rfl (by decide +kernel),
    answers_onText (by decide) (by decide) rfl (by decide +kernel)⟩

end Condition

end OrderRetrieval

import OrderRetrieval.Proofs.Filter.Needle
import OrderRetrieval.Proofs.Matching.Score
import OrderRetrieval.Proofs.Text.Blank

/-!
# Searching for a word and filtering by it

A search in one field for a single word and the condition that the field contains the word look at
the same texts in the same way, although the one goes by the text of the field and the other by its
value.  So they keep the same documents (`Matcher.contains_agrees`).
-/

namespace OrderRetrieval

/-- A text without blanks is one word. -/
theorem queryWords_of_no_blank {w : String} (nonempty : w ≠ "")
    (unbroken : ∀ c ∈ w.toList, Text.isBlank c = false) :
    queryWords w = [Text.lowerChars w.toList] :=
  Text.words_lowerChars (by simpa using nonempty) unbroken

namespace Document

variable {f : Field} {v : Value}

theorem readable_singleton (undated : f.kind ≠ .date) (d : Document) : d.Readable [f] := by
  intro g hg
  obtain rfl := List.mem_singleton.1 hg
  obtain ⟨v, hv⟩ := exists_value_eq_ok undated d
  exact ⟨v.searchText, by rw [textValue, hv]; rfl⟩

theorem lowerText_of_value {d : Document} (h : d.value f = .ok v) :
    d.lowerText f = v.lowerText := by
  rw [lowerText, textValue, h]
  rfl

end Document

namespace Matcher

variable {f : Field} {w : String}

/-- A search in one field for a single word finds the documents whose text contains it. -/
theorem pairs_contained_iff {word : List Char} {d : Document} :
    (Matcher.mk [f] .contained).pairs [word] d ≠ [] ↔ word <:+: d.lowerText f := by
  rw [pairs_ne_nil_iff]
  simp only [List.mem_singleton, exists_eq_left]
  exact Text.occursIn_iff

theorem ofNames_singleton (f : Field) (c : Closeness) :
    ofNames (some [f.name]) c = .ok ⟨[f], c⟩ := by
  have resolved : [f.name].mapM (fun name => Field.resolve (.str name)) = .ok [f] :=
    Except.mapM_eq_ok_iff.2 (.cons (Field.resolve_name f) .nil)
  exact congrArg (Except.map fun fields => Matcher.mk fields c) resolved

end Matcher

namespace Condition

variable {f : Field} {w : String} {k : Combinator}

/-- The predicate of the condition that a field contains a text. -/
theorem compileAll_contains (supported : .contains ∈ f.kind.operators) :
    compileAll [onText f .contains w k] =
      .ok (Predicate.all [Test.holds ⟨f, textAccepts .contains (.str w)⟩]) := by
  have each : compileEach [onText f .contains w k] =
      .ok ([⟨f, textAccepts .contains (.str w)⟩], []) :=
    compileEach_eq_ok.2 (.cons (compile_onText (by decide) supported) .nil)
  rw [compileAll, each, ← Predicate.combine_all]
  rfl

/-- The condition asks whether the text of the field contains the text. -/
theorem all_contains_eq_ok (undated : f.kind ≠ .date) (d : Document) :
    ∃ b, Predicate.all [Test.holds ⟨f, textAccepts .contains (.str w)⟩] d = .ok b ∧
      (b = true ↔ Text.lowerChars w.toList <:+: d.lowerText f) := by
  obtain ⟨v, hv⟩ := d.exists_value_eq_ok undated
  have holds : Test.holds ⟨f, textAccepts .contains (.str w)⟩ d =
      .ok (textAccepts .contains (.str w) v) := by
    rw [Test.holds, hv]
    rfl
  refine ⟨textAccepts .contains (.str w) v, ?_, ?_⟩
  · rw [Predicate.all_cons, holds]
    cases textAccepts .contains (.str w) v <;> rfl
  · rw [textAccepts_contains_iff, Document.lowerText_of_value hv]

end Condition

/-- **Text search and the contains filter.**  In a field of texts or addresses, a search for a text
that is not empty and has no blanks keeps the documents that the condition that the field contains
the text keeps, each as often as it is given. -/
theorem Matcher.contains_agrees {f : Field} {w : String}
    (kind : f.kind = .string ∨ f.kind = .nestedPath ∨ f.kind = .json) (nonempty : w ≠ "")
    (unbroken : ∀ c ∈ w.toList, Text.isBlank c = false) (k : Combinator) (ds : List Document) :
    ∃ m listed p kept, ofNames (some [f.name]) .contained = .ok m ∧
      m.rank (queryWords w) ds = .ok listed ∧
      Condition.compileAll [.onText f .contains w k] = .ok p ∧
      p.select ds = .ok kept ∧ (listed.map Prod.fst).Perm kept := by
  have undated : f.kind ≠ .date := by
    rcases kind with kind | kind | kind <;> rw [kind] <;> decide
  have supported : .contains ∈ f.kind.operators := by
    rcases kind with kind | kind | kind <;> rw [kind] <;> decide
  have word : queryWords w = [Text.lowerChars w.toList] := queryWords_of_no_blank nonempty unbroken
  have words : queryWords w ≠ [] := by
    rw [word]
    exact List.cons_ne_nil _ _
  obtain ⟨listed, rank, perm⟩ := exists_rank_perm (m := ⟨[f], .contained⟩) words
    fun d (_ : d ∈ ds) => d.readable_singleton undated
  have answers (d : Document) := Condition.all_contains_eq_ok (w := w) undated d
  have select := Predicate.select_eq_ok fun d (_ : d ∈ ds) =>
    (answers d).imp fun _ => And.left
  refine ⟨_, listed, _, _, ofNames_singleton f .contained, rank,
    Condition.compileAll_contains supported, select, ?_⟩
  have kept := perm.map Prod.fst
  rw [map_fst_hits, word] at kept
  refine kept.trans (.of_eq (List.filter_congr fun d _ => ?_))
  obtain ⟨b, passed, contained⟩ := answers d
  rw [Predicate.passes, passed, Bool.eq_iff_iff, decide_eq_true_iff, pairs_contained_iff, contained]

/-- A search and a condition find a name in either case, in the shipping address or beside it. -/
theorem Matcher.contains_agrees_erika :
    Field.customerName.kind = .nestedPath ∧ "ERI" ≠ "" ∧
      (∀ c ∈ "ERI".toList, Text.isBlank c = false) ∧
      ∃ a b c : Document, a.customerName = "Erika" ∧
        b.shippingAddress = some [("name", .str "frederik")] ∧ c.customerName = "Frederick" ∧
        ∃ m listed p kept, ofNames (some [Field.customerName.name]) .contained = .ok m ∧
          m.rank (queryWords "ERI") [a, b, c] = .ok listed ∧
          Condition.compileAll [.onText .customerName .contains "ERI" .all] = .ok p ∧
          p.select [a, b, c] = .ok kept ∧ (listed.map Prod.fst).Perm kept := by
  have letters : "ERI".toList = ['E', 'R', 'I'] := by decide
  have unbroken : ∀ c ∈ "ERI".toList, Text.isBlank c = false := by
    rw [letters, List.forall_mem_cons, List.forall_mem_cons, List.forall_mem_singleton]
    decide
  have nonempty : "ERI" ≠ "" := by decide
  exact ⟨rfl, nonempty, unbroken, { (default : Document) with customerName := "Erika" },
    { (default : Document) with shippingAddress := some [("name", .str "frederik")] },
    { (default : Document) with customerName := "Frederick" }, rfl, rfl, rfl,
    contains_agrees (f := .customerName) (.inr (.inl rfl)) nonempty unbroken .all _⟩

end OrderRetrieval

import OrderRetrieval.Proofs.Datum.Canonical
import OrderRetrieval.Proofs.Document.Regular
import OrderRetrieval.Proofs.Filter.Needle

/-!
# Looking for a text in an address

A condition on an address looks into its canonical text, in which every text of the address stands
escaped between two quotes.  There its capital sigmas are final where they are final in the text
alone, so the escaped text is found whatever it holds (`Condition.address_found`).  A text that
needs no escaping is found as it is, and a text with a control never is.
-/

namespace OrderRetrieval

open Text (lowerChars isControl Clean)

namespace Datum

/-- A text as it stands between the quotes of a canonical text. -/
def escaped (s : String) : String := String.ofList (s.toList.flatMap escapeChar)

/-- The datum holds a text as a value, at any depth. -/
inductive Holds (s : String) : Datum → Prop
  | here : Holds s (.str s)
  | item {x : Datum} {xs : List Datum} (mem : x ∈ xs) (inner : Holds s x) : Holds s (.arr xs)
  | field {name : String} {x : Datum} {fields : List (String × Datum)}
      (mem : (name, x) ∈ fields) (inner : Holds s x) : Holds s (.obj fields)

variable {s : String}

/-! ## Pieces of canonical texts -/

theorem mem_canonicalItems {x : Datum} {xs : List Datum} (mem : x ∈ xs) :
    x.canonicalChars ∈ canonicalItems xs := by
  induction mem with
  | head xs =>
    rw [canonicalItems]
    exact List.mem_cons_self
  | tail y _ ih =>
    rw [canonicalItems]
    exact List.mem_cons_of_mem _ ih

theorem mem_canonicalFields {name : String} {x : Datum} {fields : List (String × Datum)}
    (mem : (name, x) ∈ fields) : (name, x.canonicalChars) ∈ canonicalFields fields := by
  induction fields with
  | nil => cases mem
  | cons f fields ih =>
    rw [canonicalFields]
    cases mem with
    | head => exact List.mem_cons_self
    | tail _ mem => exact List.mem_cons_of_mem _ (ih mem)

theorem isInfix_commaSeparated {t : List Char} {items : List (List Char)} (mem : t ∈ items) :
    t <:+: commaSeparated items := by
  unfold commaSeparated
  induction items with
  | nil => cases mem
  | cons u us ih =>
    cases us with
    | nil =>
      obtain rfl := List.mem_singleton.1 mem
      simp
    | cons w ws =>
      rw [List.intercalate_cons_cons, List.append_assoc]
      cases mem with
      | head => exact (List.prefix_append _ _).isInfix
      | tail _ mem =>
        refine (ih mem).trans (List.IsSuffix.isInfix ?_)
        rw [← List.append_assoc]
        exact List.suffix_append _ _

theorem isInfix_writeFields {name : String} {t : List Char} {fields : List (String × List Char)}
    (mem : (name, t) ∈ fields) : t <:+: writeFields fields := by
  have written : quotedText name ++ ':' :: ' ' :: t ∈ (byName fields).map fun f =>
      quotedText f.1 ++ ':' :: ' ' :: f.2 :=
    List.mem_map.2 ⟨(name, t), List.mem_mergeSort.2 mem, rfl⟩
  have value : t <:+: quotedText name ++ ':' :: ' ' :: t :=
    ⟨quotedText name ++ [':', ' '], [], by simp⟩
  exact (value.trans (isInfix_commaSeparated written)).trans (List.infix_append ['\x7b'] _ _)

/-- Every text of a datum stands quoted in the canonical text. -/
theorem Holds.isInfix {x : Datum} (h : x.Holds s) : quotedText s <:+: x.canonicalChars := by
  induction h with
  | here => exact ⟨[], [], by rw [canonicalChars, List.nil_append, List.append_nil]⟩
  | item mem _ ih =>
    rw [canonicalChars]
    exact (ih.trans (isInfix_commaSeparated (mem_canonicalItems mem))).trans
      (List.infix_append ['['] _ _)
  | field mem _ ih =>
    rw [canonicalChars]
    exact ih.trans (isInfix_writeFields (mem_canonicalFields mem))

/-- The lower case of an escaped text of a datum occurs in that of the canonical text. -/
theorem Holds.lowerChars_isInfix {x : Datum} (h : x.Holds s) :
    lowerChars (escaped s).toList <:+: lowerChars x.canonicalChars := by
  obtain ⟨a, b, split⟩ := h.isInfix
  have quotes : x.canonicalChars = (a ++ ['"']) ++ ((escaped s).toList ++ '"' :: b) := by
    rw [← split, quotedText, escaped, String.toList_ofList]
    simp
  rw [quotes]
  exact (Text.keepsSigmas_of_separators (by decide) (by decide)).isInfix

/-! ## Texts that need no escaping -/

theorem escapeChar_of_plain {c : Char} (quote : c ≠ '"') (backslash : c ≠ '\\')
    (plain : isControl c = false) : escapeChar c = [c] := by
  have other (d : Char) (control : isControl d = true) : c ≠ d := by
    rintro rfl
    rw [plain] at control
    cases control
  rw [escapeChar, if_neg quote, if_neg backslash, if_neg (other _ (by decide)),
    if_neg (other _ (by decide)), if_neg (other _ (by decide)), if_neg (other _ (by decide)),
    if_neg (other _ (by decide)), if_neg]
  exact of_decide_eq_false plain

theorem escaped_eq_self (quote : '"' ∉ s.toList) (backslash : '\\' ∉ s.toList)
    (clean : Clean s.toList) : escaped s = s := by
  have plain : ∀ c ∈ s.toList, escapeChar c = [c] := by
    intro c mem
    refine escapeChar_of_plain ?_ ?_ (clean c mem)
    · rintro rfl
      exact quote mem
    · rintro rfl
      exact backslash mem
  rw [escaped, List.flatMap_congr plain, List.flatMap_singleton', String.ofList_toList]

end Datum

namespace Condition

variable {f : Field} {d : Document} {blob : Blob} {s needle : String} {k : Combinator}

/-- Only addresses are shown as objects. -/
theorem json_of_blob (shown : d.value f = .ok (.blob blob)) : f.kind = .json := by
  by_contra json
  cases Document.toKey_eq_self json shown

theorem answers_address (shown : d.value f = .ok (.blob blob)) {found : Bool}
    (occurs : found = true ↔
      lowerChars needle.toList <:+: lowerChars (Datum.obj blob).canonicalChars) :
    (onText f .contains needle k).Answers d found ∧
      (onText f .notContains needle k).Answers d (!found) := by
  have accepts : textAccepts .contains (.str needle) (.blob blob) = found := by
    rw [Bool.eq_iff_iff, textAccepts_contains_iff, Value.lowerText, Value.searchText,
      Value.blobText, Datum.canonical, String.toList_ofList, occurs]
  have supported : ∀ op ∈ [Operator.contains, .notContains], op ∈ f.kind.operators := by
    rw [json_of_blob shown]
    decide
  refine ⟨answers_onText (by decide) (supported _ (by decide)) shown accepts,
    answers_onText (by decide) (supported _ (by decide)) shown ?_⟩
  rw [textAccepts_notContains, accepts]

/-- **Looking for a text of an address.**  What an address is said to contain is what occurs in its
canonical text, both in lower case.  A text that it holds is found as it stands there, escaped, so
it is found as it is unless it has a quote, a backslash or a control.  With a control it never is.
-/
theorem address_found (shown : d.value f = .ok (.blob blob)) (holds : (Datum.obj blob).Holds s)
    (k : Combinator) :
    (∀ needle, ∃ found, (onText f .contains needle k).Answers d found ∧
      (onText f .notContains needle k).Answers d (!found) ∧
      (found = true ↔
        lowerChars needle.toList <:+: lowerChars (Datum.obj blob).canonicalChars)) ∧
    ((onText f .contains (Datum.escaped s) k).Answers d true ∧
      (onText f .notContains (Datum.escaped s) k).Answers d false) ∧
    ('"' ∉ s.toList → '\\' ∉ s.toList → Clean s.toList →
      (onText f .contains s k).Answers d true ∧ (onText f .notContains s k).Answers d false) ∧
    (¬Clean s.toList →
      (onText f .contains s k).Answers d false ∧ (onText f .notContains s k).Answers d true) := by
  have found := holds.lowerChars_isInfix
  refine ⟨fun needle => ?_, answers_address shown (iff_of_true rfl found), ?_, ?_⟩
  · exact ⟨_, and_assoc.1 ⟨answers_address shown Text.occursIn_iff, Text.occursIn_iff⟩⟩
  · intro quote backslash clean
    rw [Datum.escaped_eq_self quote backslash clean] at found
    exact answers_address shown (iff_of_true rfl found)
  · -- The canonical text is clean, and so is all that occurs in its lower case.
    intro unclean
    refine answers_address shown (iff_of_false Bool.false_ne_true fun occurs => unclean ?_)
    have lowered : Clean (lowerChars (Datum.obj blob).canonicalChars) :=
      Text.clean_lowerChars_iff.2 (Datum.clean_canonicalChars _)
    exact Text.clean_lowerChars_iff.1 (lowered.subset occurs.subset)

end Condition

namespace Elm

/-- An address of two lines, the second with a part of its own. -/
def address (street : String) : Blob :=
  [("lines", .arr [.str "c/o Dana", .obj [("street", .str street)]])]

/-- A document that is sent to the address. -/
def document (street : String) : Document :=
  { (default : Document) with shippingAddress := some (address street) }

theorem holds_street (street : String) : (Datum.obj (address street)).Holds street :=
  .field List.mem_cons_self (.item (List.mem_cons_of_mem _ List.mem_cons_self)
    (.field List.mem_cons_self .here))

end Elm

namespace Condition

/-- A street without quotes is found where it stands in the address. -/
theorem address_found_elm :
    (Elm.document "5 Elm St").value .shippingAddress = .ok (.blob (Elm.address "5 Elm St")) ∧
      (Datum.obj (Elm.address "5 Elm St")).Holds "5 Elm St" ∧
      (onText .shippingAddress .contains "5 Elm St" .all).Answers (Elm.document "5 Elm St") true ∧
      (onText .shippingAddress .notContains "5 Elm St" .all).Answers (Elm.document "5 Elm St")
        false := by
  have shown : (Elm.document "5 Elm St").value .shippingAddress =
      .ok (.blob (Elm.address "5 Elm St")) := rfl
  have holds := Elm.holds_street "5 Elm St"
  obtain ⟨-, -, plain, -⟩ := address_found shown holds .all
  exact ⟨shown, holds, plain (by decide) (by decide) (by decide)⟩

/-- A street with quotes is not found as it is, since they are escaped in the canonical text. -/
theorem not_address_found_quoted :
    (Elm.document "5 \"Elm\" St").value .shippingAddress =
        .ok (.blob (Elm.address "5 \"Elm\" St")) ∧
      (Datum.obj (Elm.address "5 \"Elm\" St")).Holds "5 \"Elm\" St" ∧
      (onText .shippingAddress .contains "5 \"Elm\" St" .all).Answers
        (Elm.document "5 \"Elm\" St") false ∧
      (onText .shippingAddress .notContains "5 \"Elm\" St" .all).Answers
        (Elm.document "5 \"Elm\" St") true :=
  ⟨rfl, Elm.holds_street _,
    answers_address rfl (iff_of_false Bool.false_ne_true (by decide +kernel))⟩

end Condition

end OrderRetrieval

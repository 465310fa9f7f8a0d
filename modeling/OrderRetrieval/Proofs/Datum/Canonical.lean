import OrderRetrieval.Datum.Canonical
import OrderRetrieval.Proofs.Text.Control

/-!
# Characters of canonical texts

Controls are escaped in the canonical text of a datum, and what stands around texts is printable, so
no canonical text holds a control (`Datum.clean_canonicalChars`).
-/

namespace OrderRetrieval

open Text (Clean isControl)

namespace Number

theorem clean_digits (n : Nat) : Clean (digits n) := by
  intro c mem
  have digit := Nat.isDigit_of_mem_toDigits (by decide) (by decide) mem
  rw [Char.isDigit_iff_toNat] at digit
  exact Text.isControl_eq_false_iff.2 (Nat.le_trans (by decide) digit.1)

theorem clean_zeros (n : Nat) : Clean (List.replicate n '0') := Text.clean_replicate n (by decide)

theorem clean_padded (width n : Nat) : Clean (padded width n) :=
  Text.clean_append.2 ⟨clean_zeros _, clean_digits n⟩

theorem clean_significant {ds : List Char} (h : Clean ds) : Clean (significant ds) := by
  refine h.subset fun c mem => List.mem_reverse.1 ?_
  exact (List.dropWhile_sublist _).subset (List.mem_reverse.1 mem)

theorem clean_repr (n : Nat) : Clean n.repr.toList := by
  rw [Nat.toList_repr]
  exact clean_digits n

theorem clean_toString (n : Int) : Clean (toString n).toList := by
  cases n with
  | ofNat m => exact clean_repr m
  | negSucc m =>
    show Clean ("-" ++ (m + 1).repr).toList
    rw [String.toList_append, Text.clean_append]
    exact ⟨by decide, clean_repr (m + 1)⟩

/-- A decimal is written in digits, signs and letters. -/
theorem clean_scientific (d : Scientific) : Clean (Layout.json.scientific d).toList := by
  have ds : Clean (significant (digits d.digits)) := clean_significant (clean_digits d.digits)
  have front (k : Nat) : Clean ((significant (digits d.digits)).take k) :=
    ds.subset (List.take_subset _ _)
  have back (k : Nat) : Clean ((significant (digits d.digits)).drop k) :=
    ds.subset (List.drop_subset _ _)
  have others : Clean (significant (digits d.digits)).tail := ds.subset (List.tail_sublist _).subset
  unfold Layout.scientific
  dsimp only
  split
  · unfold Layout.positional
    split
    · simp [ds, isControl, clean_zeros]
    · split
      · simp [ds, isControl, clean_zeros, Layout.json, Layout.display]
      · simp [front, back, isControl]
  · unfold Layout.exponential
    dsimp only
    split <;> split <;>
      simp [front, others, isControl, clean_padded, Layout.json, Layout.display]

theorem clean_write (x : Float) : Clean (Layout.json.write x).toList := by
  unfold Layout.write Layout.writeAs
  split
  · decide
  · split <;> decide
  · have sign (negative : Bool) : Clean (if negative then "-" else "").toList := by
      cases negative <;> decide
    rw [String.toList_append, Text.clean_append]
    refine ⟨sign _, ?_⟩
    split
    · decide
    · exact clean_scientific _

end Number

namespace Datum

theorem clean_escapeChar (c : Char) : Clean (escapeChar c) := by
  have controls : ∀ n < 0x20, Clean (Text.hexDigits 4 n) := by decide
  unfold escapeChar
  iterate 7
    split
    · decide
  split
  · next control =>
    rw [Text.clean_cons, Text.clean_cons]
    exact ⟨by decide, by decide, controls c.toNat control⟩
  · next plain =>
    rw [Text.clean_cons, Text.isControl_eq_false_iff]
    exact ⟨Nat.le_of_not_lt plain, Text.clean_nil⟩

theorem clean_quotedText (s : String) : Clean (quotedText s) := by
  have escaped : Clean (s.toList.flatMap escapeChar) :=
    Text.clean_flatMap fun c _ => clean_escapeChar c
  simp [quotedText, escaped, isControl]

theorem clean_commaSeparated {items : List (List Char)} (h : ∀ t ∈ items, Clean t) :
    Clean (commaSeparated items) := by
  unfold commaSeparated
  induction items with
  | nil => simp
  | cons t ts ih =>
    rw [List.forall_mem_cons] at h
    cases ts with
    | nil => simpa using h.1
    | cons u us =>
      rw [List.intercalate_cons_cons, Text.clean_append, Text.clean_append]
      exact ⟨⟨h.1, by decide⟩, ih h.2⟩

theorem clean_writeFields {fields : List (String × List Char)} (h : ∀ f ∈ fields, Clean f.2) :
    Clean (writeFields fields) := by
  have each : Clean (commaSeparated ((byName fields).map fun f =>
      quotedText f.1 ++ ':' :: ' ' :: f.2)) := by
    refine clean_commaSeparated (List.forall_mem_map.2 ?_)
    intro f hf
    have value : Clean f.2 := h f (List.mem_mergeSort.1 hf)
    simp [clean_quotedText, value, isControl]
  simp [writeFields, each, isControl]

mutual

/-- No canonical text holds a control. -/
theorem clean_canonicalChars : (x : Datum) → Clean x.canonicalChars
  | .null => by decide
  | .bool b => by cases b <;> decide
  | .int n => by
    rw [canonicalChars]
    exact Number.clean_toString n
  | .float x => by
    rw [canonicalChars]
    exact Number.clean_write x
  | .str s => by
    rw [canonicalChars]
    exact clean_quotedText s
  | .time t => by
    rw [canonicalChars]
    exact clean_quotedText _
  | .arr items => by
    have each := clean_commaSeparated (clean_canonicalItems items)
    simp [canonicalChars, each, isControl]
  | .obj fields => by
    rw [canonicalChars]
    exact clean_writeFields (clean_canonicalFields fields)

theorem clean_canonicalItems : (xs : List Datum) → ∀ t ∈ canonicalItems xs, Clean t
  | [] => List.forall_mem_nil _
  | x :: xs => by
    rw [canonicalItems, List.forall_mem_cons]
    exact ⟨clean_canonicalChars x, clean_canonicalItems xs⟩

theorem clean_canonicalFields :
    (fields : List (String × Datum)) → ∀ f ∈ canonicalFields fields, Clean f.2
  | [] => List.forall_mem_nil _
  | (name, x) :: fields => by
    rw [canonicalFields, List.forall_mem_cons]
    exact ⟨clean_canonicalChars x, clean_canonicalFields fields⟩

end

theorem nul_notMem_canonical (x : Datum) : '\x00' ∉ x.canonical.toList := by
  rw [canonical, String.toList_ofList]
  intro nul
  exact absurd (clean_canonicalChars x _ nul) (by decide)

end Datum

end OrderRetrieval

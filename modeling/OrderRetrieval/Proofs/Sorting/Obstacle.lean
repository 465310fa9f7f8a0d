import OrderRetrieval.Proofs.Document.Regular
import OrderRetrieval.Proofs.Sorting.Adaptive
import OrderRetrieval.Sorting.Basic

/-!
# What keeps documents from being sorted

Two timed documents can be compared under any keys if of two texts that they have in one field
neither holds a NUL (`Document.Collates`).  Documents of which any two collate can be sorted by any
keys (`exists_sort_eq_ok`), and documents that are alike in a field but for one with a NUL in it
cannot be sorted by that field (`sort_eq_error`).
-/

namespace OrderRetrieval

/-- Whether of two texts that two documents have in one field neither holds a NUL. -/
def Document.Collates (d e : Document) : Prop :=
  ∀ f s t, d.key f = .ok (.text s) → e.key f = .ok (.text t) →
    '\x00' ∉ s.toList ∧ '\x00' ∉ t.toList

theorem Document.Collates.symm {d e : Document} (h : d.Collates e) : e.Collates d := by
  intro f s t hs ht
  exact (h f t s ht hs).symm

namespace Sorting

variable {σ : Type} {compareScores : σ → σ → Ordering} {a b : Scored σ}

/-- A cell with a NUL is that of a text with one. -/
theorem Key.exists_text_of_hasNul {k : Key} {c : Cell σ} (h : k.cell a = .ok c)
    (nul : c.hasNul = true) :
    ∃ f s, k.subject = .field f ∧ a.document.key f = .ok (.text s) ∧ '\x00' ∈ s.toList := by
  unfold Key.cell at h
  cases hk : k.subject with
  | relevance =>
    rw [hk] at h
    cases h
    cases nul
  | field f =>
    rw [hk] at h
    obtain ⟨v, hv, rfl⟩ := Except.map_eq_ok.1 h
    cases v with
    | text s => exact ⟨f, s, rfl, hv, by simpa [Cell.ofValue, Cell.hasNul] using nul⟩
    | blob b => exact absurd (Document.key_isOfKind hv) (Value.not_isOfKind_blob f.kind b)
    | missing | amount _ | moment _ => cases nul

theorem Key.exists_cell_eq_ok (k : Key) (h : a.document.Timed) : ∃ c, k.cell a = .ok c := by
  unfold Key.cell
  cases k.subject with
  | relevance => exact ⟨_, rfl⟩
  | field f =>
    obtain ⟨v, hv⟩ := h.key f
    exact ⟨Cell.ofValue v, by simp only [hv, Except.map]⟩

/-- Where documents collate a cell with a NUL meets only missing ones. -/
theorem Key.isMissing_of_hasNul {k : Key} {c c' : Cell σ} (h : k.cell a = .ok c)
    (h' : k.cell b = .ok c') (collates : a.document.Collates b.document)
    (nul : c.hasNul = true) : c'.isMissing = true := by
  obtain ⟨f, s, hk, hs, mem⟩ := Key.exists_text_of_hasNul h nul
  unfold Key.cell at h'
  rw [hk] at h'
  obtain ⟨v, hv, rfl⟩ := Except.map_eq_ok.1 h'
  rcases (Document.key_isOfKind hs).isText (Document.key_isOfKind hv) with rfl | ⟨t, rfl⟩
  · rfl
  · exact absurd mem (collates f s t hs hv).1

/-- The rows of timed documents that collate meet no obstacle. -/
theorem obstacle?_row_eq_none (ks : List Key) (ha : a.document.Timed) (hb : b.document.Timed)
    (collates : a.document.Collates b.document) :
    (row ks a).obstacle? compareScores (row ks b) = none := by
  induction ks with
  | nil => rfl
  | cons k ks ih =>
    obtain ⟨c, hc⟩ := k.exists_cell_eq_ok ha
    obtain ⟨c', hc'⟩ := k.exists_cell_eq_ok hb
    have free : (!c.isMissing && !c'.isMissing && (c.hasNul || c'.hasNul)) = false := by
      cases nul : c.hasNul with
      | true => simp [Key.isMissing_of_hasNul hc hc' collates nul]
      | false =>
        cases nul' : c'.hasNul with
        | true => simp [Key.isMissing_of_hasNul hc' hc collates.symm nul']
        | false => simp
    simp only [row, List.map_cons, hc, hc', Row.obstacle?, free, Bool.false_eq_true, if_false]
    split
    · exact ih
    · rfl

theorem compares_row (ks : List Key) (ha : a.document.Timed) (hb : b.document.Timed)
    (collates : a.document.Collates b.document) :
    Compares (Row.before compareScores) (row ks a) (row ks b) := by
  constructor
  · exact ⟨_, by rw [Row.before, obstacle?_row_eq_none ks ha hb collates]⟩
  · exact ⟨_, by rw [Row.before, obstacle?_row_eq_none ks hb ha collates.symm]⟩

/-- Rows of which any two can be compared are no obstacle to sorting. -/
theorem obstacle?_eq_none {rows : List (Row σ)}
    (h : rows.Pairwise (Compares (Row.before compareScores))) :
    obstacle? compareScores rows = none := by
  obtain ⟨sorted, hsorted⟩ := sortAdaptively_eq_ok h
  unfold obstacle?
  rw [hsorted]
  exact ite_self none

theorem sortRows_perm (items : List (Scored σ)) (ks : List Key) :
    (sortRows compareScores (items.map fun a => (row ks a, a))).Perm items := by
  have perm := ((items.map fun a => (row ks a, a)).mergeSort_perm
    fun a b => a.1.order compareScores b.1 != .gt).map Prod.snd
  rw [List.map_map] at perm
  exact perm.trans (.of_eq (List.map_id items))

theorem map_fst_rows (items : List (Scored σ)) (ks : List Key) :
    (items.map fun a => (row ks a, a)).map Prod.fst = items.map (row ks) :=
  List.map_map

/-- Timed documents of which any two collate are sorted by any keys. -/
theorem exists_sort_eq_ok {specs : List SortSpec} {items : List (Scored σ)}
    (timed : ∀ a ∈ items, a.document.Timed)
    (collate : items.Pairwise fun a b => a.document.Collates b.document) :
    ∃ sorted, sort compareScores specs items = .ok sorted ∧ sorted.Perm items := by
  have compares :
      (items.map (row (keys specs))).Pairwise (Compares (Row.before compareScores)) := by
    refine List.pairwise_map.2 (collate.imp_of_mem ?_)
    intro a b ha hb pair
    exact compares_row (keys specs) (timed a ha) (timed b hb) pair
  refine ⟨sortRows compareScores _, ?_, sortRows_perm items (keys specs)⟩
  unfold sort
  simp only [map_fst_rows, obstacle?_eq_none compares]

/-! ## A text with a NUL -/

/-- The key that sorts by a field, least values first. -/
def Key.rising (f : Field) : Key := ⟨.field f, false⟩

theorem keys_rising (f : Field) : keys [⟨f.name, .ascending⟩] = [Key.rising f] := by
  cases f <;> decide

/-- The row of a text. -/
def textRow (s : String) : Row σ := [(false, .ok (.text (Text.fold s) s))]

theorem row_rising {f : Field} {s : String} (h : a.document.key f = .ok (.text s)) :
    row [Key.rising f] a = textRow s := by
  simp only [row, Key.rising, Key.cell, h, List.map_cons, List.map_nil, Except.map, Cell.ofValue,
    textRow]

theorem isFragile_textRow {s : String} :
    (textRow s : Row σ).isFragile = true ↔ '\x00' ∈ s.toList := by
  simp [textRow, Row.isFragile, Cell.hasNul]

/-- A text with a NUL cannot be compared with another. -/
theorem before_textRow_of_nul {s t : String} (h : '\x00' ∈ s.toList ∨ '\x00' ∈ t.toList) :
    Row.before compareScores (textRow s) (textRow t) = .error .embeddedNul := by
  simp [Row.before, textRow, Row.obstacle?, Cell.isMissing, Cell.hasNul, h]

theorem before_textRow_self {s : String} (h : '\x00' ∉ s.toList) :
    Row.before compareScores (textRow s) (textRow s) = .ok false := by
  simp [Row.before, textRow, Row.obstacle?, Row.order, Cell.order, Cell.compare, Cell.isMissing,
    Cell.hasNul, h]

/-- Documents that have one text in a field, but for some with a NUL in it, cannot be sorted by that
field. -/
theorem sort_eq_error {f : Field} {text : String} {items : List (Scored σ)}
    (alike : ∀ a ∈ items, ∃ s, a.document.key f = .ok (.text s) ∧ (s = text ∨ '\x00' ∈ s.toList))
    (several : 2 ≤ items.length)
    (nul : ∃ a ∈ items, ∃ s, a.document.key f = .ok (.text s) ∧ '\x00' ∈ s.toList) :
    sort compareScores [⟨f.name, .ascending⟩] items = .error .embeddedNul := by
  have rows : ∀ r ∈ items.map (row [Key.rising f]), ∃ s, r = textRow s ∧
      (s = text ∨ '\x00' ∈ s.toList) := by
    rw [List.forall_mem_map]
    intro a ha
    obtain ⟨s, hs, cases⟩ := alike a ha
    exact ⟨s, row_rising hs, cases⟩
  have fragile : ∃ r ∈ items.map (row [Key.rising f]), Row.isFragile r = true := by
    obtain ⟨a, ha, s, hs, mem⟩ := nul
    refine ⟨_, List.mem_map_of_mem ha, ?_⟩
    rw [row_rising hs]
    exact isFragile_textRow.2 mem
  have fails : Fails (Row.before compareScores) .embeddedNul (fun r => r.isFragile = true)
      (items.map (row [Key.rising f])) := by
    constructor
    · intro r hr r' hr' bad
      obtain ⟨s, rfl, -⟩ := rows r hr
      obtain ⟨t, rfl, -⟩ := rows r' hr'
      rw [isFragile_textRow, isFragile_textRow] at bad
      exact before_textRow_of_nul bad
    · intro r hr r' hr' good good'
      obtain ⟨s, rfl, cases⟩ := rows r hr
      obtain ⟨t, rfl, cases'⟩ := rows r' hr'
      rw [isFragile_textRow] at good good'
      obtain rfl := cases.resolve_right good
      obtain rfl := cases'.resolve_right good'
      exact before_textRow_self good
  have stops := sortAdaptively_eq_error fails (by simpa using several) fragile
  have any : (items.map (row [Key.rising f])).any Row.isFragile = true :=
    List.any_eq_true.2 fragile
  unfold sort
  simp only [keys_rising, map_fst_rows, obstacle?, any, stops, if_true]

end Sorting

end OrderRetrieval

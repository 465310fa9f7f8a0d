import Mathlib.Data.List.Nodup
import OrderRetrieval.Index.Basic

/-!
# Looking up documents

What each operation on the index does to the document under an id.  Of several documents of one id
that are inserted one after the other the last one stays (`get?_upsertAll`), and what is kept or
taken out is settled by the id alone (`get?_retain`, `get?_delete`).  A sweep, which takes documents
out one by one, leaves those of the ids that are kept (`fst_sweep`).  A snapshot is made of all
documents or of none (`snapshot_eq`).
-/

namespace OrderRetrieval.Index

/-- The document under an id is the one that has it. -/
theorem get?_eq_some_iff {i : Index} {id : String} {d : Document} :
    i.get? id = some d ↔ d ∈ i.documents ∧ d.id = id := by
  constructor
  · intro h
    exact ⟨List.mem_of_find?_eq_some h, by simpa using List.find?_some h⟩
  · rintro ⟨hd, rfl⟩
    cases hf : i.get? d.id with
    | none => exact absurd (List.find?_eq_none.1 hf d hd) (by simp)
    | some e =>
      have he : e ∈ i.documents := List.mem_of_find?_eq_some hf
      have eq : e.id = d.id := by simpa using List.find?_some hf
      rw [List.inj_on_of_nodup_map i.ids_nodup he hd eq]

theorem find?_place (d : Document) (es : List Document) (id : String) :
    ((place d es).find? fun e => e.id == id) =
      if d.id = id then some d else es.find? fun e => e.id == id := by
  induction es with
  | nil =>
    by_cases h : d.id = id
    · simp [place, h]
    · simp [place, h]
  | cons e es ih =>
    by_cases he : e.id = d.id
    · by_cases h : d.id = id
      · simp [place, he, h]
      · simp [place, he, h]
    · by_cases h : d.id = id
      · subst h
        simpa [place, he] using ih
      · simp only [place, if_neg he, List.find?_cons, ih, if_neg h]

theorem get?_upsert (i : Index) (d : Document) (id : String) :
    (i.upsert d).get? id = if d.id = id then some d.prepared else i.get? id :=
  find?_place d.prepared i.documents id

theorem place_place (d : Document) (es : List Document) : place d (place d es) = place d es := by
  induction es with
  | nil => simp [place]
  | cons e es ih =>
    by_cases h : e.id = d.id
    · simp [place, h]
    · simp [place, h, ih]

/-- Inserting a document twice is inserting it once. -/
theorem upsert_upsert (i : Index) (d : Document) : (i.upsert d).upsert d = i.upsert d := by
  rw [upsert, mk.injEq]
  exact place_place d.prepared i.documents

theorem get?_delete (i : Index) (gone id : String) :
    (i.delete gone).get? id = if id = gone then none else i.get? id := by
  simp only [get?, delete, List.find?_filter]
  split
  · next h =>
    subst h
    simp
  · next h =>
    congr 1
    funext d
    by_cases hd : d.id = id
    · simp [hd, h]
    · simp [hd]

theorem get?_retain (i : Index) (keep : String → Bool) (id : String) :
    (i.retain keep).get? id = if keep id then i.get? id else none := by
  simp only [get?, retain, List.find?_filter]
  split
  · next h =>
    congr 1
    funext d
    by_cases hd : d.id = id
    · simp [hd, h]
    · simp [hd]
  · next h =>
    rw [List.find?_eq_none]
    intro d _ hd
    simp only [decide_eq_true_eq, beq_iff_eq] at hd
    exact h (hd.2 ▸ hd.1)

theorem contains_iff {i : Index} {id : String} : i.contains id = true ↔ id ∈ i.ids := by
  simp [contains, get?, ids]

theorem ids_delete (i : Index) (gone : String) :
    (i.delete gone).ids = i.ids.filter fun id => id != gone := by
  simp only [ids, delete, List.filter_map]
  rfl

theorem mem_ids_retain {i : Index} {keep : String → Bool} {id : String} :
    id ∈ (i.retain keep).ids ↔ id ∈ i.ids ∧ keep id = true := by
  simp only [ids, retain, List.mem_map, List.mem_filter]
  constructor
  · rintro ⟨d, ⟨hd, hk⟩, rfl⟩
    exact ⟨⟨d, hd, rfl⟩, hk⟩
  · rintro ⟨⟨d, hd, rfl⟩, hk⟩
    exact ⟨d, ⟨hd, hk⟩, rfl⟩

/-! ### Sweeping -/

/-- What is kept of the documents is settled by which of their ids are kept. -/
theorem retain_congr {i : Index} {keep keep' : String → Bool}
    (h : ∀ id ∈ i.ids, keep id = keep' id) : i.retain keep = i.retain keep' := by
  rw [retain, retain, mk.injEq]
  exact List.filter_congr fun d hd => h d.id (List.mem_map_of_mem hd)

theorem retain_eq_self {i : Index} {keep : String → Bool} (h : ∀ id ∈ i.ids, keep id = true) :
    i.retain keep = i :=
  (retain_congr h).trans i.compact_eq

theorem retain_retain (i : Index) (keep keep' : String → Bool) :
    (i.retain keep).retain keep' = i.retain fun id => keep id && keep' id := by
  rw [retain, retain, retain, mk.injEq, List.filter_filter]
  exact List.filter_congr fun d _ => Bool.and_comm _ _

theorem retain_retain_self (i : Index) (keep : String → Bool) :
    (i.retain keep).retain keep = i.retain keep :=
  (i.retain_retain keep keep).trans (retain_congr fun _ _ => Bool.and_self _)

theorem length_ids (i : Index) : i.ids.length = i.size := List.length_map Document.id

theorem size_delete {i : Index} {gone : String} (h : i.contains gone = true) :
    (i.delete gone).size + 1 = i.size := by
  have mem : gone ∈ i.ids := contains_iff.1 h
  have erased : (i.delete gone).ids = i.ids.erase gone :=
    (ids_delete i gone).trans (List.Nodup.erase_eq_filter i.ids_nodup gone).symm
  rw [← length_ids, ← length_ids, erased, List.length_erase_of_mem mem]
  exact Nat.sub_add_cancel (List.length_pos_of_mem mem)

section Sweep

variable {kept : List String}

/-- One step of a sweep takes out the document with the id, unless that is to be kept. -/
theorem fst_sweepOne (swept : Index × Nat) (id : String) :
    (sweepOne kept swept id).1 = swept.1.retain fun other => kept.contains id || other != id := by
  unfold sweepOne
  split
  · next h =>
    rw [Bool.and_eq_true, Bool.not_eq_true'] at h
    rw [h.1]
    rfl
  · next h =>
    refine (retain_eq_self fun other there => ?_).symm
    rw [Bool.or_eq_true, bne_iff_ne]
    by_contra gone
    push Not at gone
    obtain ⟨dropped, rfl⟩ := gone
    exact h (Bool.and_eq_true_iff.2 ⟨by simpa using dropped, contains_iff.2 there⟩)

/-- One step of a sweep counts what it takes out. -/
theorem snd_sweepOne (swept : Index × Nat) (id : String) :
    (sweepOne kept swept id).2 + (sweepOne kept swept id).1.size = swept.2 + swept.1.size := by
  unfold sweepOne
  split
  · next h =>
    have size := size_delete (Bool.and_eq_true_iff.1 h).2
    dsimp only
    omega
  · rfl

theorem fst_foldl_sweepOne (swept : Index × Nat) (ids : List String) :
    (ids.foldl (sweepOne kept) swept).1 =
      swept.1.retain fun other => kept.contains other || !ids.contains other := by
  induction ids generalizing swept with
  | nil => exact (retain_eq_self fun other _ => Bool.or_true _).symm
  | cons id ids ih =>
    rw [List.foldl_cons, ih, fst_sweepOne, retain_retain]
    refine retain_congr fun other _ => ?_
    by_cases same : other = id
    · subst same
      cases kept.contains other <;> simp
    · simp [same]

theorem snd_foldl_sweepOne (swept : Index × Nat) (ids : List String) :
    (ids.foldl (sweepOne kept) swept).2 + (ids.foldl (sweepOne kept) swept).1.size =
      swept.2 + swept.1.size := by
  induction ids generalizing swept with
  | nil => rfl
  | cons id ids ih => rw [List.foldl_cons, ih, snd_sweepOne]

/-- A sweep over the ids that the index had at first leaves just the documents whose ids are
kept. -/
theorem fst_sweep (i : Index) (kept : List String) :
    (i.sweep kept).1 = i.retain fun id => kept.contains id := by
  rw [sweep, fst_foldl_sweepOne]
  refine retain_congr fun id there => ?_
  rw [List.contains_iff_mem.2 there, Bool.not_true, Bool.or_false]

/-- A sweep counts the documents that are gone after it. -/
theorem snd_sweep (i : Index) (kept : List String) :
    (i.sweep kept).2 + (i.sweep kept).1.size = i.size := by
  rw [sweep, snd_foldl_sweepOne, Nat.zero_add]

end Sweep

/-! ### Several documents at once -/

@[simp] theorem upsertAll_cons (i : Index) (d : Document) (ds : List Document) :
    i.upsertAll (d :: ds) = (i.upsert d).upsertAll ds := rfl

/-- What is left of an index if a document is inserted that may be refused. -/
def attempt (i : Index) (d : Document) : Index := (i.store d).toOption.getD i

/-- Of documents that are inserted one after the other those are left out that are refused. -/
theorem foldl_attempt (i : Index) (ds : List Document) :
    ds.foldl attempt i = i.upsertAll (ds.filter Document.isWritable) := by
  induction ds generalizing i with
  | nil => rfl
  | cons d ds ih =>
    rw [List.foldl_cons, ih, List.filter_cons, attempt, store]
    cases d.isWritable <;> rfl

/-- Documents are stored one after the other unless the text of one of them cannot be written. -/
theorem foldlM_store (i : Index) (ds : List Document) :
    ds.foldlM store i =
      if ds.all Document.isWritable then .ok (i.upsertAll ds) else .error .tooManyDigits := by
  induction ds generalizing i with
  | nil => rfl
  | cons d ds ih =>
    rw [List.foldlM_cons, List.all_cons, store]
    cases d.isWritable with
    | true => exact ih (i.upsert d)
    | false => rfl

theorem snapshot_eq (ds : List Document) :
    snapshot ds =
      if ds.all Document.isWritable then .ok (ofDocuments ds) else .error .tooManyDigits :=
  foldlM_store empty ds

/-- Of the documents of one id the last one stays. -/
theorem get?_upsertAll (i : Index) (ds : List Document) (id : String) :
    (i.upsertAll ds).get? id =
      ((ds.reverse.find? fun d => d.id == id).map Document.prepared).or (i.get? id) := by
  induction ds generalizing i with
  | nil => rfl
  | cons d ds ih =>
    rw [upsertAll_cons, ih, get?_upsert, List.reverse_cons, List.find?_append]
    cases ds.reverse.find? fun e => e.id == id with
    | some e => rfl
    | none =>
      by_cases h : d.id = id
      · simp [h]
      · simp [h]

theorem get?_upsertAll_of_ne {i : Index} {ds : List Document} {id : String}
    (h : ∀ d ∈ ds, d.id ≠ id) : (i.upsertAll ds).get? id = i.get? id := by
  have hnone : (ds.reverse.find? fun d => d.id == id) = none := by
    rw [List.find?_eq_none]
    intro d hd
    simpa using h d (List.mem_reverse.1 hd)
  rw [get?_upsertAll, hnone]
  rfl

/-- Under the id of a document that is inserted it does not matter what was held before. -/
theorem get?_upsertAll_congr {i j : Index} {ds : List Document} {id : String}
    (h : ∃ d ∈ ds, d.id = id) : (i.upsertAll ds).get? id = (j.upsertAll ds).get? id := by
  obtain ⟨d, hd, hid⟩ := h
  have hsome : (ds.reverse.find? fun d => d.id == id).isSome := by
    rw [List.find?_isSome]
    exact ⟨d, List.mem_reverse.2 hd, beq_iff_eq.2 hid⟩
  obtain ⟨e, he⟩ := Option.isSome_iff_exists.1 hsome
  rw [get?_upsertAll, get?_upsertAll, he]
  rfl

/-- Inserting documents and then keeping just their ids leaves what is built from them alone. -/
theorem get?_retain_upsertAll {i : Index} {ds : List Document} {keep : String → Bool}
    (h : ∀ id, keep id = true ↔ ∃ d ∈ ds, d.id = id) (id : String) :
    ((i.upsertAll ds).retain keep).get? id = (ofDocuments ds).get? id := by
  rw [get?_retain]
  by_cases hid : ∃ d ∈ ds, d.id = id
  · rw [if_pos ((h id).2 hid)]
    exact get?_upsertAll_congr hid
  · rw [if_neg (hid ∘ (h id).1)]
    push Not at hid
    rw [ofDocuments, get?_upsertAll_of_ne hid]
    rfl

/-- A document that is the only one of its id among those inserted is found. -/
theorem get?_upsertAll_of_mem {i : Index} {ds : List Document} {d : Document} (hd : d ∈ ds)
    (only : ∀ e ∈ ds, e.id = d.id → e = d) : (i.upsertAll ds).get? d.id = some d.prepared := by
  have hsome : (ds.reverse.find? fun e => e.id == d.id) = some d := by
    cases hf : ds.reverse.find? fun e => e.id == d.id with
    | none => exact absurd (List.find?_eq_none.1 hf d (List.mem_reverse.2 hd)) (by simp)
    | some e =>
      have he : e ∈ ds := List.mem_reverse.1 (List.mem_of_find?_eq_some hf)
      rw [only e he (by simpa using List.find?_some hf)]
  rw [get?_upsertAll, hsome]
  rfl

end OrderRetrieval.Index

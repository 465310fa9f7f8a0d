import Mathlib.Algebra.GroupWithZero.Nat
import Mathlib.Data.List.ProdSigma
import OrderRetrieval.Matching.Rank
import OrderRetrieval.Proofs.Document.Regular
import OrderRetrieval.Proofs.Sorting.Stable

/-!
# What a text search keeps

A text search looks at all pairs of a word and a field.  It answers if every document can be read
through its fields, and otherwise fails in the same way whatever it looks for
(`Matcher.readable_or_fails`).  Timed documents can be read through every field.  The search keeps
the documents with a pair that matches, each with the points of all its pairs that match, and lists
them by falling score, equal scores in the order given (`Matcher.rank_keeps`).
-/

namespace OrderRetrieval

/-- The lower-case text of a field of a document. -/
def Document.lowerText (d : Document) (f : Field) : List Char :=
  match d.textValue f with
  | .ok s => Text.lowerChars s.toList
  | .error _ => []

/-- Whether each of some fields of a document has a text. -/
def Document.Readable (fields : List Field) (d : Document) : Prop :=
  ∀ f ∈ fields, ∃ s, d.textValue f = .ok s

theorem Document.Timed.readable {d : Document} (h : d.Timed) (fields : List Field) :
    d.Readable fields := fun f _ => h.textValue f

namespace Matcher

/-- The pairs of a word and a field that match. -/
def pairs (m : Matcher) (words : List (List Char)) (d : Document) : List (List Char × Field) :=
  (words ×ˢ m.fields).filter fun p => m.closeness.matches p.1 (d.lowerText p.2)

/-- The points of all pairs that match. -/
def total (m : Matcher) (words : List (List Char)) (d : Document) : Nat :=
  ((m.pairs words d).map fun p => pairPoints p.1 (d.lowerText p.2)).sum

/-- What a document earns, if a pair matches. -/
def earned? (m : Matcher) (words : List (List Char)) (d : Document) : Option Nat :=
  if m.pairs words d = [] then none else some (m.total words d)

/-- Whether a document is found: without words every document is. -/
def Keeps (m : Matcher) (words : List (List Char)) (d : Document) : Prop :=
  words ≠ [] → ∃ w ∈ words, ∃ f ∈ m.fields, m.closeness.matches w (d.lowerText f) = true

variable {m : Matcher} {words : List (List Char)} {d : Document} {ds : List Document}

@[simp] theorem total_nil : m.total [] d = 0 := rfl

theorem pairs_ne_nil_iff :
    m.pairs words d ≠ [] ↔
      ∃ w ∈ words, ∃ f ∈ m.fields, m.closeness.matches w (d.lowerText f) = true := by
  constructor
  · intro nonempty
    obtain ⟨⟨w, f⟩, h⟩ := List.exists_mem_of_ne_nil _ nonempty
    obtain ⟨mem, hits⟩ := List.mem_filter.1 h
    obtain ⟨hw, hf⟩ := List.mem_product.1 mem
    exact ⟨w, hw, f, hf, hits⟩
  · rintro ⟨w, hw, f, hf, hits⟩
    exact List.ne_nil_of_mem (List.mem_filter.2 ⟨List.mem_product.2 ⟨hw, hf⟩, hits⟩)

theorem texts_eq_ok (h : d.Readable m.fields) : m.texts d = .ok (m.fields.map d.lowerText) := by
  refine Except.mapM_eq_ok fun f hf => ?_
  obtain ⟨s, hs⟩ := h f hf
  simp only [Document.lowerText, hs, Except.map]

theorem readable_of_texts {texts : List (List Char)} (h : m.texts d = .ok texts) :
    d.Readable m.fields := by
  intro f hf
  obtain ⟨t, ht⟩ := Except.exists_of_mapM_eq_ok h f hf
  obtain ⟨s, hs, -⟩ := Except.map_eq_ok.1 ht
  exact ⟨s, hs⟩

/-- The points are those of the pairs that match. -/
theorem points_texts :
    points m.closeness words (m.fields.map d.lowerText) =
      (m.pairs words d).map fun p => pairPoints p.1 (d.lowerText p.2) := by
  induction words with
  | nil => rfl
  | cons w ws ih =>
    rw [points, List.flatMap_cons]
    rw [points] at ih
    rw [ih, pairs, pairs, List.product_cons, List.filter_append, List.map_append]
    rw [List.filter_map, List.filter_map, List.map_map, List.map_map]
    rfl

theorem score_eq_ok (h : d.Readable m.fields) : m.score words d = .ok (m.earned? words d) := by
  rw [score, texts_eq_ok h, earned?]
  refine congrArg Except.ok ?_
  have sum : (points m.closeness words (m.fields.map d.lowerText)).foldl Nat.add 0 =
      m.total words d := by
    rw [points_texts]
    exact List.sum_eq_foldl_nat.symm
  dsimp only
  split
  · next none =>
    rw [points_texts, List.map_eq_nil_iff] at none
    rw [if_pos none]
  · next some =>
    rw [points_texts, List.map_eq_nil_iff] at some
    rw [if_neg some, sum]

/-- The documents with a pair that matches, with their points. -/
def hits (m : Matcher) (words : List (List Char)) (ds : List Document) : List (Document × Nat) :=
  (ds.filter fun d => m.pairs words d ≠ []).map fun d => (d, m.total words d)

theorem scored_eq_ok (h : ∀ d ∈ ds, d.Readable m.fields) :
    m.scored words ds = .ok (m.hits words ds) := by
  unfold hits
  induction ds with
  | nil => rfl
  | cons d ds ih =>
    rw [List.forall_mem_cons] at h
    rw [scored, score_eq_ok h.1, ih h.2, List.filter_cons]
    by_cases hd : m.pairs words d = []
    · simp [earned?, hd]
      rfl
    · simp [earned?, hd]
      rfl

/-- Whether a text search answers depends only on the documents and its fields. -/
theorem readable_or_scored_fails (fields : List Field) (ds : List Document) :
    (∀ d ∈ ds, d.Readable fields) ∨
      ∃ e, ∀ c words, (Matcher.mk fields c).scored words ds = .error e := by
  induction ds with
  | nil => exact .inl (List.forall_mem_nil _)
  | cons d ds ih =>
    cases texts : (Matcher.mk fields .contained).texts d with
    | error e =>
      refine .inr ⟨e, fun c words => ?_⟩
      have fails : (Matcher.mk fields c).texts d = .error e := texts
      rw [scored, score, fails]
      rfl
    | ok ts =>
      have readable : d.Readable fields := readable_of_texts texts
      rcases ih with rest | ⟨e, fails⟩
      · exact .inl (List.forall_mem_cons.2 ⟨readable, rest⟩)
      · refine .inr ⟨e, fun c words => ?_⟩
        rw [scored, score_eq_ok readable, fails]
        rfl

theorem hits_eq_filterMap :
    m.hits words ds = ds.filterMap fun d => (m.earned? words d).map (d, ·) := by
  rw [hits, ← List.filterMap_eq_filter, List.map_filterMap]
  refine List.filterMap_congr fun d _ => ?_
  by_cases hd : m.pairs words d = []
  · simp [earned?, hd]
  · simp [earned?, hd]

theorem map_fst_hits :
    (m.hits words ds).map Prod.fst = ds.filter fun d => m.pairs words d ≠ [] := by
  rw [hits, List.map_map]
  exact List.map_id _

theorem mem_hits {n : Nat} (nonempty : words ≠ []) :
    (d, n) ∈ m.hits words ds ↔ d ∈ ds ∧ m.Keeps words d ∧ n = m.total words d := by
  have keeps : m.Keeps words d ↔ m.pairs words d ≠ [] := by
    rw [pairs_ne_nil_iff]
    exact forall_prop_of_true nonempty
  rw [hits, List.mem_map, keeps]
  constructor
  · rintro ⟨e, he, eq⟩
    cases eq
    obtain ⟨hd, found⟩ := List.mem_filter.1 he
    exact ⟨hd, of_decide_eq_true found, rfl⟩
  · rintro ⟨hd, found, rfl⟩
    exact ⟨d, List.mem_filter.2 ⟨hd, decide_eq_true found⟩, rfl⟩

/-- Documents by falling score. -/
def byScore (a b : Document × Nat) : Ordering := Ord.compare b.2 a.2

instance : Std.TransCmp byScore :=
  inferInstanceAs (Std.TransCmp fun a b : Document × Nat => compareOn Prod.snd b a)

theorem rank_eq_ok (nonempty : words ≠ []) (h : ∀ d ∈ ds, d.Readable m.fields) :
    m.rank words ds = .ok ((m.hits words ds).mergeSort fun a b => (byScore a b).isLE) := by
  rw [rank, if_neg (by simpa using nonempty), scored_eq_ok h]
  refine congrArg Except.ok (Sorting.mergeSort_congr ?_)
  intro a _ b _
  rw [byScore, Bool.eq_iff_iff, decide_eq_true_iff]
  exact Nat.isLE_compare.symm

/-- A search for words lists what it finds, or fails in the same way for all words. -/
theorem readable_or_fails (fields : List Field) (ds : List Document) :
    (∀ d ∈ ds, d.Readable fields) ∨
      ∃ e, ∀ c words, words ≠ [] → (Matcher.mk fields c).rank words ds = .error e := by
  refine (readable_or_scored_fails fields ds).imp_right ?_
  rintro ⟨e, fails⟩
  refine ⟨e, fun c words nonempty => ?_⟩
  rw [rank, if_neg (by simpa using nonempty), fails]
  rfl

theorem exists_rank_perm (nonempty : words ≠ []) (h : ∀ d ∈ ds, d.Readable m.fields) :
    ∃ listed, m.rank words ds = .ok listed ∧ listed.Perm (m.hits words ds) :=
  ⟨_, rank_eq_ok nonempty h, List.mergeSort_perm _ _⟩

/-- Without words every document is listed as given; with words those with a pair that matches are
listed by their points. -/
theorem rank_keeps {R : Document → Document → Prop} (timed : ∀ d ∈ ds, d.Timed)
    (nodup : ds.Nodup) (given : ds.Pairwise R) :
    ∃ listed, m.rank words ds = .ok listed ∧ (listed.map Prod.fst).Nodup ∧
      (∀ d n, (d, n) ∈ listed ↔ d ∈ ds ∧ m.Keeps words d ∧ n = m.total words d) ∧
      listed.Pairwise fun a b => b.2 < a.2 ∨ (a.2 = b.2 ∧ R a.1 b.1) := by
  by_cases h : words = []
  · subst h
    refine ⟨ds.map (·, 0), rfl, ?_, ?_, ?_⟩
    · rw [List.map_map]
      exact (List.map_id ds).symm ▸ nodup
    · intro d n
      rw [List.mem_map, total_nil]
      constructor
      · rintro ⟨e, he, eq⟩
        cases eq
        exact ⟨he, fun none => absurd rfl none, rfl⟩
      · rintro ⟨hd, -, rfl⟩
        exact ⟨d, hd, rfl⟩
    · refine List.pairwise_map.2 (given.imp ?_)
      intro a b before
      exact .inr ⟨rfl, before⟩
  · have perm : ((m.hits words ds).mergeSort fun a b => (byScore a b).isLE).Perm
        (m.hits words ds) := List.mergeSort_perm _ _
    have fst_nodup : ((m.hits words ds).map Prod.fst).Nodup := by
      rw [map_fst_hits]
      exact nodup.filter _
    have readable : ∀ d ∈ ds, d.Readable m.fields := fun d hd => (timed d hd).readable m.fields
    refine ⟨_, rank_eq_ok h readable, (perm.map Prod.fst).nodup_iff.2 fst_nodup, ?_, ?_⟩
    · intro d n
      rw [perm.mem_iff, mem_hits h]
    · have given : (m.hits words ds).Pairwise fun a b => R a.1 b.1 :=
        List.pairwise_map.2 (given.filter _)
      refine (Sorting.pairwise_mergeSort_then byScore (fst_nodup.of_map _) given).imp ?_
      rintro a b (lt | ⟨eq, before⟩)
      · exact .inl (Nat.compare_eq_lt.1 lt)
      · exact .inr ⟨(Nat.compare_eq_eq.1 eq).symm, before⟩

end Matcher

end OrderRetrieval

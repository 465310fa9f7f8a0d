import OrderRetrieval.Proofs.Facet.Count
import OrderRetrieval.Proofs.Sorting.Stable

/-!
# Exact facets

A facet over regular documents has one entry for each value that some of them have, with the number
of documents that have it, by falling number and then in the order in which the values first occur
(`Facet.exact_of_ofField`).  The numbers do not depend on the order of the documents
(`Facet.exists_ofFields_perm`).
-/

namespace OrderRetrieval

namespace Facet

namespace Counts

/-- Whether some counts are those of the values of a field over some documents. -/
structure Exact (counts : Counts) (f : Field) (ds : List Document) : Prop where
  /-- No two entries are for values that are counted as one. -/
  distinct : counts.Distinct
  /-- An entry is for a value that a document has. -/
  met : ∀ v n, (v, n) ∈ counts → ∃ d ∈ ds, d.key f = .ok v
  /-- The value of a document has an entry. -/
  covers : ∀ d ∈ ds, ∃ v n, (v, n) ∈ counts ∧ d.fallsUnder f v = true
  number : ∀ v n, (v, n) ∈ counts → n = ds.countP (·.fallsUnder f v)
  ordered : counts.Pairwise fun a b => b.2 < a.2 ∨
    (a.2 = b.2 ∧ ds.findIdx (·.fallsUnder f a.1) < ds.findIdx (·.fallsUnder f b.1))
  total : (counts.map Prod.snd).sum = ds.length

variable {v : Value} {counts counts' : Counts} {vs : List Value}

/-! ## The order of the entries -/

theorem numberOf_eq_zero (h : (counts.map Prod.fst).any (·.sameKey v) = false) :
    counts.numberOf v = 0 := by
  induction counts with
  | nil => rfl
  | cons entry rest ih =>
    rw [List.map_cons, List.any_cons, Bool.or_eq_false_iff] at h
    rw [numberOf, h.1]
    exact ih h.2

/-- Values are counted in the order in which they first occur. -/
theorem pairwise_firsts (self : ∀ v ∈ vs, v.sameKey v = true) :
    ((ofValues vs).map Prod.fst).Pairwise fun v w =>
      vs.findIdx (·.sameKey v) < vs.findIdx (·.sameKey w) := by
  induction vs using List.reverseRecOn with
  | nil => exact .nil
  | append_singleton vs u ih =>
    rw [List.forall_mem_append] at self
    have before : ∀ v ∈ (ofValues vs).map Prod.fst, vs.findIdx (·.sameKey v) < vs.length := by
      intro v hv
      have mem : v ∈ vs := mem_of_mem_keys vs v hv
      exact List.findIdx_lt_length_of_exists ⟨v, mem, self.1 v mem⟩
    have kept : ∀ v ∈ (ofValues vs).map Prod.fst,
        (vs ++ [u]).findIdx (·.sameKey v) = vs.findIdx (·.sameKey v) := by
      intro v hv
      rw [List.findIdx_append, if_pos (before v hv)]
    have old : ((ofValues vs).map Prod.fst).Pairwise fun v w =>
        (vs ++ [u]).findIdx (·.sameKey v) < (vs ++ [u]).findIdx (·.sameKey w) := by
      refine (ih self.1).imp_of_mem fun hv hw first => ?_
      rw [kept _ hv, kept _ hw]
      exact first
    rw [ofValues_concat, keys_add]
    split
    · exact old
    · next new =>
      -- Nothing of the class of `u` was met before it.
      have last : vs.length ≤ (vs ++ [u]).findIdx (·.sameKey u) := by
        have none : vs.countP (·.sameKey u) = 0 := by
          rw [← numberOf_ofValues]
          exact numberOf_eq_zero (Bool.eq_false_iff.2 new)
        have length : vs.findIdx (·.sameKey u) = vs.length :=
          List.findIdx_eq_length.2 (by simpa using List.countP_eq_zero.1 none)
        rw [List.findIdx_append, length, if_neg (Nat.lt_irrefl _)]
        exact Nat.le_add_left _ _
      refine List.pairwise_append.2 ⟨old, List.pairwise_singleton _ u, ?_⟩
      intro v hv w hw
      obtain rfl := List.mem_singleton.1 hw
      rw [kept v hv]
      exact Nat.lt_of_lt_of_le (before v hv) last

theorem pairwise_ordered (self : ∀ v ∈ vs, v.sameKey v = true) :
    (ofValues vs).ordered.Pairwise fun a b => b.2 < a.2 ∨
      (a.2 = b.2 ∧ vs.findIdx (·.sameKey a.1) < vs.findIdx (·.sameKey b.1)) := by
  have given := List.pairwise_map.1 (pairwise_firsts self)
  refine Sorting.pairwise_mergeSort_falling Prod.snd ?_ given
  refine given.imp fun first eq => ?_
  rw [eq] at first
  exact Nat.lt_irrefl _ first

/-! ## The numbers of the entries -/

theorem Distinct.perm (h : counts.Distinct) (perm : counts.Perm counts') : counts'.Distinct := by
  refine (perm.map Prod.fst).pairwise h ?_
  intro v w different
  rw [Value.sameKey_comm]
  exact different

/-- With one entry for each class the order of the entries does not matter. -/
theorem Distinct.numberOf_perm (h : counts.Distinct) (perm : counts.Perm counts') (v : Value) :
    counts.numberOf v = counts'.numberOf v := by
  induction perm with
  | nil => rfl
  | cons entry _ ih => rw [numberOf, numberOf, ih (List.pairwise_cons.1 h).2]
  | swap a b rest =>
    have different : b.1.sameKey a.1 = false := (List.pairwise_cons.1 h).1 a.1 List.mem_cons_self
    obtain ⟨u, m⟩ := a
    obtain ⟨w, n⟩ := b
    simp only [numberOf]
    by_cases hw : w.sameKey v = true
    · have other : u.sameKey v = false := by
        rw [Bool.eq_false_iff]
        intro hu
        rw [Value.sameKey_trans hw (Value.sameKey_symm hu)] at different
        cases different
      simp [hw, other]
    · simp [hw]
  | trans first _ ih ih' => exact (ih h).trans (ih' (h.perm first))

end Counts

section Documents

variable {f : Field} {fs : List Field} {ds ds' : List Document} {counts : Counts}
  {vs : List Value} {facets : List (Field × Counts)}

theorem findIdx_keysOf (h : keysOf f ds = .ok vs) (v : Value) :
    vs.findIdx (·.sameKey v) = ds.findIdx (·.fallsUnder f v) := by
  have each : List.Forall₂ (fun d w => d.key f = .ok w) ds vs := Except.mapM_eq_ok_iff.1 h
  clear h
  induction each with
  | nil => rfl
  | cons hd _ ih => simp only [List.findIdx_cons, ih, Document.fallsUnder, hd]

/-- The facet of a field over regular documents is exact. -/
theorem exact_of_ofField (regular : ∀ d ∈ ds, d.Regular) (h : ofField f ds = .ok counts) :
    counts.Exact f ds := by
  obtain ⟨vs, keys, rfl⟩ := Except.map_eq_ok.1 h
  have self : ∀ v ∈ vs, v.sameKey v = true := fun v hv =>
    (isKeyOf_of_mem_keysOf regular keys v hv).sameKey_self
  constructor
  case distinct => exact (Counts.ofValues_distinct vs).perm (Counts.ordered_perm _).symm
  case met =>
    intro v n entry
    have listed := (Counts.ordered_perm _).mem_iff.1 entry
    exact (mem_keysOf keys).1 (Counts.mem_of_mem_keys vs v (List.mem_map_of_mem listed))
  case covers =>
    intro d hd
    obtain ⟨w, key, isKey⟩ := (regular d hd).key f
    obtain ⟨v, same, entries⟩ := entries_of_mem h hd key isKey.sameKey_self
    have entry := List.mem_filter.1 (entries ▸ List.mem_singleton_self _)
    exact ⟨v, _, entry⟩
  case number => exact fun v n entry => (entry_of_ofField regular h entry).2
  case ordered =>
    simp only [← findIdx_keysOf keys]
    exact Counts.pairwise_ordered self
  case total => exact sum_of_ofField h

/-- The number of a class in a facet is the number of documents that fall under it. -/
theorem numberOf_ofField (h : ofField f ds = .ok counts) (v : Value) :
    counts.numberOf v = ds.countP (·.fallsUnder f v) := by
  obtain ⟨vs, keys, rfl⟩ := Except.map_eq_ok.1 h
  rw [← countP_keysOf keys, ← Counts.numberOf_ofValues]
  exact ((Counts.ofValues_distinct vs).numberOf_perm (Counts.ordered_perm _).symm v).symm

/-- Whether two lists of facets are of the same fields and give the same number to every value. -/
def SameMaps (facets facets' : List (Field × Counts)) : Prop :=
  List.Forall₂ (fun a b => a.1 = b.1 ∧ ∀ v, a.2.numberOf v = b.2.numberOf v) facets facets'

theorem exists_ofField_perm (h : ofField f ds = .ok counts) (perm : ds.Perm ds') :
    ∃ counts', ofField f ds' = .ok counts' ∧ ∀ v, counts.numberOf v = counts'.numberOf v := by
  obtain ⟨vs, keys, rfl⟩ := Except.map_eq_ok.1 h
  obtain ⟨vs', keys'⟩ : ∃ vs', keysOf f ds' = .ok vs' :=
    Except.exists_mapM_eq_ok fun d hd => Except.exists_of_mapM_eq_ok keys d (perm.mem_iff.2 hd)
  have h' : ofField f ds' = .ok (Counts.ofValues vs').ordered := by
    rw [ofField, keys']
    rfl
  refine ⟨_, h', fun v => ?_⟩
  rw [numberOf_ofField h, numberOf_ofField h', perm.countP_eq]

/-- Facets give every value the same number in whatever order the documents come. -/
theorem exists_ofFields_perm (h : ofFields fs ds = .ok facets) (perm : ds.Perm ds') :
    ∃ facets', ofFields fs ds' = .ok facets' ∧ SameMaps facets facets' := by
  rw [ofFields_eq] at h ⊢
  generalize fs.eraseDups = gs at h ⊢
  induction gs generalizing facets with
  | nil =>
    cases h
    exact ⟨[], rfl, .nil⟩
  | cons g gs ih =>
    rw [List.mapM_cons] at h
    obtain ⟨entry, made, h⟩ := Except.bind_eq_ok.1 h
    obtain ⟨rest, hrest, eq⟩ := Except.bind_eq_ok.1 h
    obtain ⟨counts, counted, rfl⟩ := Except.map_eq_ok.1 made
    cases eq
    obtain ⟨counts', counted', same⟩ := exists_ofField_perm counted perm
    obtain ⟨rest', hrest', maps⟩ := ih hrest
    refine ⟨(g, counts') :: rest', ?_, .cons ⟨rfl, same⟩ maps⟩
    rw [List.mapM_cons, entryOf, counted', hrest']
    rfl

end Documents

end Facet

end OrderRetrieval

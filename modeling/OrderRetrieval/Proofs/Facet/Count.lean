import Mathlib.Algebra.GroupWithZero.Nat
import OrderRetrieval.Proofs.Facet.OnePass

/-!
# What facets count

Values that are counted as one form a class.  A facet has one entry for each class that was met
(`Counts.ofValues_distinct`), with the size of the class (`Counts.eq_countP_of_mem`), so its numbers
add up to the number of all values (`Counts.sum_ofValues`).
-/

namespace OrderRetrieval

/-! ## Values that are counted as one -/

namespace Value

variable {u v w : Value}

theorem sameKey_symm (h : v.sameKey w = true) : w.sameKey v = true := by
  cases v <;> cases w <;> simp_all [sameKey, Double.eq_iff, and_comm]

theorem sameKey_trans (h : u.sameKey v = true) (h' : v.sameKey w = true) :
    u.sameKey w = true := by
  cases u <;> cases v <;> cases w <;> simp_all [sameKey]
  obtain ⟨i, hu, hv⟩ := Double.eq_iff.1 h
  obtain ⟨j, hv', hw⟩ := Double.eq_iff.1 h'
  cases hv.symm.trans hv'
  exact Double.eq_iff.2 ⟨i, hu, hw⟩

theorem sameKey_comm (v w : Value) : v.sameKey w = w.sameKey v := by
  rw [Bool.eq_iff_iff]
  exact ⟨sameKey_symm, sameKey_symm⟩

/-- A key that a field may have is counted as one with itself. -/
theorem IsKeyOf.sameKey_self {kind : FieldKind} (h : v.IsKeyOf kind) : v.sameKey v = true := by
  cases kind with
  | numeric =>
    obtain ⟨x, rfl, number⟩ := h
    obtain ⟨i, hi⟩ := Double.exists_rank number
    exact Double.eq_iff.2 ⟨i, hi, hi⟩
  | date =>
    rcases h with rfl | ⟨m, rfl⟩
    · rfl
    · simp [sameKey]
  | string | nestedPath | enumeration | json =>
    rcases h with rfl | ⟨s, rfl⟩
    · rfl
    · simp [sameKey]

end Value

namespace Facet

/-! ## Counting one value after the other -/

namespace Counts

/-- The number counted for the class of a value. -/
def numberOf (v : Value) : Counts → Nat
  | [] => 0
  | (w, n) :: rest => if w.sameKey v then n else numberOf v rest

/-- Whether there is one entry for each class. -/
def Distinct (counts : Counts) : Prop :=
  (counts.map Prod.fst).Pairwise fun v w => v.sameKey w = false

variable {v w : Value} {n : Nat} {counts : Counts} {vs : List Value}

theorem numberOf_add (v w : Value) (counts : Counts) :
    (counts.add v).numberOf w = counts.numberOf w + if v.sameKey w then 1 else 0 := by
  induction counts with
  | nil => simp [add, numberOf]
  | cons entry rest ih =>
    obtain ⟨u, n⟩ := entry
    by_cases same : u.sameKey v = true
    · -- the entry of the class of `v` is that of the class of `w` if the classes are one
      have classes : u.sameKey w = v.sameKey w := by
        rw [Bool.eq_iff_iff]
        exact ⟨Value.sameKey_trans (Value.sameKey_symm same), Value.sameKey_trans same⟩
      by_cases h : v.sameKey w = true
      · simp [add, numberOf, same, classes, h]
      · simp [add, numberOf, same, classes, h]
    · by_cases h : u.sameKey w = true
      · have other : v.sameKey w = false := by
          rw [Bool.eq_false_iff]
          exact fun h' => same (Value.sameKey_trans h (Value.sameKey_symm h'))
        simp [add, numberOf, same, h, other]
      · simp [add, numberOf, same, h, ih]

/-- A value is counted under the first of its class. -/
theorem keys_add (v : Value) (counts : Counts) :
    (counts.add v).map Prod.fst =
      if (counts.map Prod.fst).any (·.sameKey v) then counts.map Prod.fst
      else counts.map Prod.fst ++ [v] := by
  induction counts with
  | nil => rfl
  | cons entry rest ih =>
    obtain ⟨u, n⟩ := entry
    by_cases same : u.sameKey v = true
    · simp [add, same]
    · simp only [add, same, Bool.false_eq_true, if_false, List.map_cons, ih, List.any_cons,
        Bool.false_or]
      split <;> rfl

theorem Distinct.add (h : counts.Distinct) (v : Value) : (counts.add v).Distinct := by
  unfold Distinct
  rw [keys_add]
  split
  · exact h
  · next new =>
    refine List.pairwise_append.2 ⟨h, List.pairwise_singleton _ v, ?_⟩
    intro u hu w hw
    obtain rfl := List.mem_singleton.1 hw
    simpa using List.any_eq_false.1 (Bool.eq_false_iff.2 new) u hu

theorem sum_add (v : Value) (counts : Counts) :
    ((counts.add v).map Prod.snd).sum = (counts.map Prod.snd).sum + 1 := by
  induction counts with
  | nil => rfl
  | cons entry rest ih =>
    obtain ⟨u, n⟩ := entry
    by_cases same : u.sameKey v = true
    · simp only [Counts.add, same, if_true, List.map_cons, List.sum_cons]
      omega
    · simp only [Counts.add, same, Bool.false_eq_true, if_false, List.map_cons, List.sum_cons, ih]
      omega

/-- Where there is one entry for each class, an entry has the number of the class of its value. -/
theorem Distinct.numberOf_eq (h : counts.Distinct) (self : v.sameKey v = true)
    (mem : (v, n) ∈ counts) : counts.numberOf v = n := by
  induction counts with
  | nil => cases mem
  | cons entry rest ih =>
    obtain ⟨u, m⟩ := entry
    obtain ⟨first, distinct⟩ := List.pairwise_cons.1 h
    rcases List.mem_cons.1 mem with eq | mem
    · cases eq
      simp [numberOf, self]
    · have other : u.sameKey v = false := first v (List.mem_map_of_mem mem)
      simp only [numberOf, other, Bool.false_eq_true, if_false]
      exact ih distinct mem

/-- Where there is one entry for each class, a class that was counted has just one. -/
theorem Distinct.filter_eq (h : counts.Distinct) (counted : counts.numberOf v ≠ 0) :
    ∃ u, u.sameKey v = true ∧
      counts.filter (fun entry => entry.1.sameKey v) = [(u, counts.numberOf v)] := by
  induction counts with
  | nil => exact absurd rfl counted
  | cons entry rest ih =>
    obtain ⟨u, n⟩ := entry
    obtain ⟨first, distinct⟩ := List.pairwise_cons.1 h
    by_cases same : u.sameKey v = true
    · have none : rest.filter (fun entry => entry.1.sameKey v) = [] := by
        rw [List.filter_eq_nil_iff]
        intro entry mem same'
        have other : u.sameKey entry.1 = false := first entry.1 (List.mem_map_of_mem mem)
        rw [Value.sameKey_trans same (Value.sameKey_symm same')] at other
        cases other
      refine ⟨u, same, ?_⟩
      simp only [List.filter_cons, same, if_true, none, numberOf]
    · simp only [numberOf, if_neg same] at counted
      simp only [List.filter_cons, numberOf, if_neg same]
      exact ih distinct counted

/-! ## The counts of several values -/

theorem ofValues_concat (vs : List Value) (v : Value) :
    ofValues (vs ++ [v]) = (ofValues vs).add v :=
  List.foldl_append

theorem ofValues_distinct (vs : List Value) : (ofValues vs).Distinct := by
  induction vs using List.reverseRecOn with
  | nil => exact .nil
  | append_singleton vs v ih =>
    rw [ofValues_concat]
    exact ih.add v

/-- The number counted for a class is its size. -/
theorem numberOf_ofValues (v : Value) (vs : List Value) :
    (ofValues vs).numberOf v = vs.countP (·.sameKey v) := by
  induction vs using List.reverseRecOn with
  | nil => rfl
  | append_singleton vs w ih =>
    rw [ofValues_concat, numberOf_add, ih, List.countP_append, List.countP_singleton]

/-- The numbers add up to the number of all values. -/
theorem sum_ofValues (vs : List Value) : ((ofValues vs).map Prod.snd).sum = vs.length := by
  induction vs using List.reverseRecOn with
  | nil => rfl
  | append_singleton vs v ih =>
    rw [ofValues_concat, sum_add, ih, List.length_append, List.length_singleton]

/-- What has an entry was met. -/
theorem mem_of_mem_keys (vs : List Value) : ∀ v ∈ (ofValues vs).map Prod.fst, v ∈ vs := by
  induction vs using List.reverseRecOn with
  | nil => exact List.forall_mem_nil _
  | append_singleton vs w ih =>
    have before : ∀ v ∈ (ofValues vs).map Prod.fst, v ∈ vs ++ [w] :=
      fun v hv => List.mem_append_left [w] (ih v hv)
    rw [ofValues_concat, keys_add]
    split
    · exact before
    · exact List.forall_mem_append.2 ⟨before, List.forall_mem_singleton.2 List.mem_concat_self⟩

/-- An entry has the size of the class of its value. -/
theorem eq_countP_of_mem (self : v.sameKey v = true) (mem : (v, n) ∈ ofValues vs) :
    n = vs.countP (·.sameKey v) := by
  rw [← numberOf_ofValues, (ofValues_distinct vs).numberOf_eq self mem]

theorem ordered_perm (counts : Counts) : counts.ordered.Perm counts :=
  List.mergeSort_perm counts _

end Counts

end Facet

/-! ## The facets of documents -/

/-- Whether a document is counted under a value of a field. -/
def Document.fallsUnder (d : Document) (f : Field) (v : Value) : Bool :=
  match d.key f with
  | .ok w => w.sameKey v
  | .error _ => false

namespace Facet

section Documents

variable {f : Field} {ds : List Document} {counts : Counts} {vs : List Value}

theorem countP_keysOf (h : keysOf f ds = .ok vs) (v : Value) :
    vs.countP (·.sameKey v) = ds.countP (·.fallsUnder f v) := by
  have each : List.Forall₂ (fun d w => d.key f = .ok w) ds vs := Except.mapM_eq_ok_iff.1 h
  clear h
  induction each with
  | nil => rfl
  | cons hd _ ih => simp [List.countP_cons, ih, Document.fallsUnder, hd]

theorem mem_keysOf (h : keysOf f ds = .ok vs) {v : Value} :
    v ∈ vs ↔ ∃ d ∈ ds, d.key f = .ok v := by
  have each : List.Forall₂ (fun d w => d.key f = .ok w) ds vs := Except.mapM_eq_ok_iff.1 h
  clear h
  induction each with
  | nil => simp
  | cons hd _ ih => simp [ih, hd, eq_comm]

/-- The keys of regular documents are of the kind of the field. -/
theorem isKeyOf_of_mem_keysOf (regular : ∀ d ∈ ds, d.Regular) (h : keysOf f ds = .ok vs) :
    ∀ v ∈ vs, v.IsKeyOf f.kind := by
  intro v hv
  obtain ⟨d, hd, key⟩ := (mem_keysOf h).1 hv
  obtain ⟨w, key', isKey⟩ := (regular d hd).key f
  cases key.symm.trans key'
  exact isKey

/-- The numbers of a facet add up to the number of documents. -/
theorem sum_of_ofField (h : ofField f ds = .ok counts) :
    (counts.map Prod.snd).sum = ds.length := by
  obtain ⟨vs, keys, rfl⟩ := Except.map_eq_ok.1 h
  calc ((Counts.ofValues vs).ordered.map Prod.snd).sum
      = ((Counts.ofValues vs).map Prod.snd).sum := ((Counts.ordered_perm _).map Prod.snd).sum_nat
    _ = vs.length := Counts.sum_ofValues vs
    _ = ds.length := (Except.mapM_eq_ok_iff.1 keys).length_eq.symm

/-- Each document falls under one entry of a facet, with the number of documents that do so. -/
theorem entries_of_mem (h : ofField f ds = .ok counts) {d : Document} (mem : d ∈ ds) {w : Value}
    (key : d.key f = .ok w) (self : w.sameKey w = true) :
    ∃ v, v.sameKey w = true ∧ counts.filter (fun entry => d.fallsUnder f entry.1) =
      [(v, ds.countP (·.fallsUnder f w))] := by
  obtain ⟨vs, keys, rfl⟩ := Except.map_eq_ok.1 h
  have number : (Counts.ofValues vs).numberOf w = ds.countP (·.fallsUnder f w) := by
    rw [Counts.numberOf_ofValues, countP_keysOf keys]
  have under (v : Value) : d.fallsUnder f v = v.sameKey w := by
    rw [Document.fallsUnder, key, Value.sameKey_comm]
  have counted : (Counts.ofValues vs).numberOf w ≠ 0 := by
    rw [number, Nat.ne_zero_iff_zero_lt, List.countP_pos_iff]
    exact ⟨d, mem, (under w).trans self⟩
  obtain ⟨v, same, entry⟩ := (Counts.ofValues_distinct vs).filter_eq counted
  refine ⟨v, same, List.perm_singleton.1 ?_⟩
  simp only [under]
  rw [← number, ← entry]
  exact (Counts.ordered_perm _).filter _

/-- An entry of a facet over regular documents says how many of them fall under its value. -/
theorem entry_of_ofField (regular : ∀ d ∈ ds, d.Regular) (h : ofField f ds = .ok counts)
    {v : Value} {n : Nat} (mem : (v, n) ∈ counts) :
    v.IsKeyOf f.kind ∧ n = ds.countP (·.fallsUnder f v) := by
  obtain ⟨vs, keys, rfl⟩ := Except.map_eq_ok.1 h
  rw [(Counts.ordered_perm _).mem_iff] at mem
  have key : v.IsKeyOf f.kind :=
    isKeyOf_of_mem_keysOf regular keys v (Counts.mem_of_mem_keys vs v (List.mem_map_of_mem mem))
  exact ⟨key, (Counts.eq_countP_of_mem key.sameKey_self mem).trans (countP_keysOf keys v)⟩

/-- Facets have one entry for each different field, with the facet of that field. -/
theorem facet_of_ofFields {fs : List Field} {facets : List (Field × Counts)}
    (h : ofFields fs ds = .ok facets) :
    facets.map Prod.fst = fs.eraseDups ∧
      ∀ entry ∈ facets, ofField entry.1 ds = .ok entry.2 := by
  rw [ofFields_eq] at h
  exact facet_of_mapM h

end Documents

end Facet

end OrderRetrieval

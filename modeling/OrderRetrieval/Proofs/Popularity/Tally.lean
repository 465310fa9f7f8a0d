import OrderRetrieval.Popularity.Tally
import OrderRetrieval.Proofs.Different
import OrderRetrieval.Proofs.Sorting.Stable

/-!
# What a tally holds

A tally has every term that was counted, in the order in which the terms were first counted, with
the number of times (`Tally.addAll_nil`).  A trim that leaves room for every term drops none
(`Tally.trim_of_room`), and what is listed has the highest counts first, equal counts in that order
(`Tally.pairwise_ranked`).
-/

namespace OrderRetrieval

/-! ## Room -/

/-- What is less than a number is less than every number above it. -/
theorem Quantity.lt_whole_mono {q : Quantity} {m n : Int} (le : m ≤ n)
    (h : q.lt (.whole m) = true) : q.lt (.whole n) = true := by
  cases q with
  | whole k =>
    simp only [lt, decide_eq_true_eq] at h ⊢
    omega
  | double x =>
    cases floor : Double.floor? x with
    | none => simpa only [lt, floor] using h
    | some k =>
      simp only [lt, floor, decide_eq_true_eq] at h ⊢
      omega

namespace Tally

variable {ts : List String}

/-! ## Counting one term after the other -/

theorem add_map {keys : List String} (nodup : keys.Nodup) (f : String → Nat) (t : String) :
    add t (keys.map fun u => (u, f u)) =
      if t ∈ keys then keys.map fun u => (u, f u + if u = t then 1 else 0)
      else (keys.map fun u => (u, f u)) ++ [(t, 1)] := by
  induction keys with
  | nil => rfl
  | cons u keys ih =>
    obtain ⟨fresh, nodup⟩ := List.nodup_cons.1 nodup
    by_cases same : u = t
    · subst same
      have others : ∀ v ∈ keys, (v, f v) = (v, f v + if v = u then 1 else 0) := by
        intro v hv
        have different : v ≠ u := fun same => fresh (same ▸ hv)
        rw [if_neg different, Nat.add_zero]
      simp [add, List.map_congr_left others]
    · have different : t ≠ u := Ne.symm same
      rw [List.map_cons, add, if_neg same, ih nodup]
      by_cases mem : t ∈ keys
      · simp [mem, same]
      · simp [mem, different]

/-- The terms stand in the order in which they were first counted, with the number of times. -/
theorem addAll_nil (ts : List String) :
    addAll [] ts = ts.eraseDups.map fun t => (t, ts.count t) := by
  induction ts using List.reverseRecOn with
  | nil => rfl
  | append_singleton ts t ih =>
    have last : addAll [] (ts ++ [t]) = add t (addAll [] ts) := List.foldl_append
    have counts (u : String) : (ts ++ [t]).count u = ts.count u + if u = t then 1 else 0 := by
      rw [List.count_append, List.count_singleton]
      simp only [beq_iff_eq, @eq_comm _ t]
    -- A term that was there counts one more; a new one comes last and counts one.
    rw [last, ih, add_map (nodup_eraseDups ts), eraseDups_concat]
    simp only [List.mem_eraseDups, counts]
    split
    · rfl
    · next new =>
      have others : ∀ u ∈ ts.eraseDups,
          (u, ts.count u) = (u, ts.count u + if u = t then 1 else 0) := by
        intro u hu
        have different : u ≠ t := fun same => new (same ▸ List.mem_eraseDups.1 hu)
        rw [if_neg different, Nat.add_zero]
      rw [List.map_append, List.map_congr_left others]
      simp [List.count_eq_zero_of_not_mem new]

theorem addAll_addAll (ts us : List String) :
    (addAll [] ts).addAll us = addAll [] (ts ++ us) :=
  List.foldl_append.symm

theorem length_addAll (ts : List String) : (addAll [] ts).length = ts.eraseDups.length := by
  rw [addAll_nil, List.length_map]

/-- Trimming drops nothing where there is room for every term. -/
theorem trim_of_room {tally : Tally} {size : Quantity}
    (room : size.lt (.whole tally.length) = false) : tally.trim size = .ok tally := by
  unfold trim
  rw [room]
  rfl

/-! ## Listing what was counted -/

theorem mem_ranked {t : String} {n : Nat} :
    (t, n) ∈ (addAll [] ts).ranked ↔ t ∈ ts ∧ n = ts.count t := by
  rw [ranked, List.mem_mergeSort, addAll_nil, List.mem_map]
  simp only [List.mem_eraseDups, Prod.mk.injEq]
  constructor
  · rintro ⟨u, hu, rfl, rfl⟩
    exact ⟨hu, rfl⟩
  · rintro ⟨ht, rfl⟩
    exact ⟨t, ht, rfl, rfl⟩

theorem map_fst_addAll (ts : List String) : (addAll [] ts).map Prod.fst = ts.eraseDups := by
  rw [addAll_nil, List.map_map]
  exact List.map_id _

theorem nodup_ranked (ts : List String) : ((addAll [] ts).ranked.map Prod.fst).Nodup := by
  have perm : (addAll [] ts).ranked.Perm (addAll [] ts) := List.mergeSort_perm _ _
  rw [(perm.map Prod.fst).nodup_iff, map_fst_addAll]
  exact nodup_eraseDups ts

/-- The highest counts stand first, equal counts in the order in which the terms were first
counted. -/
theorem pairwise_ranked (ts : List String) :
    (addAll [] ts).ranked.Pairwise fun a b =>
      b.2 < a.2 ∨ (a.2 = b.2 ∧ ts.idxOf a.1 < ts.idxOf b.1) := by
  have order : (addAll [] ts).Pairwise fun a b => ts.idxOf a.1 < ts.idxOf b.1 := by
    rw [← List.pairwise_map (f := Prod.fst) (R := fun t u => ts.idxOf t < ts.idxOf u),
      map_fst_addAll]
    exact pairwise_eraseDups ts
  have nodup : ((addAll [] ts).map Prod.fst).Nodup := by
    rw [map_fst_addAll]
    exact nodup_eraseDups ts
  exact Sorting.pairwise_mergeSort_falling Prod.snd (nodup.of_map _) order

end Tally

end OrderRetrieval

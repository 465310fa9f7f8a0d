import Mathlib.Data.List.Forall2
import Mathlib.Data.List.Nodup

/-!
# Stable sorting

Sorting a list by an order keeps the elements that the order does not tell apart in the order in
which they were given, and no other sorted list of the same elements does so (`eq_mergeSort_iff`).
So a list that is sorted again is ordered by the second order first and by the first order among
elements that are equal in the second (`pairwise_mergeSort_then`).
-/

namespace OrderRetrieval.Sorting

open List

variable {α : Type} {l : List α}

/-- Only the comparisons of elements of the list count. -/
theorem mergeSort_congr {le le' : α → α → Bool} (h : ∀ a ∈ l, ∀ b ∈ l, le a b = le' a b) :
    l.mergeSort le = l.mergeSort le' := by
  have mapped : (l.mergeSort le).map id = (l.map id).mergeSort le' := List.map_mergeSort h
  rw [List.map_id, List.map_id] at mapped
  exact mapped

/-- Lists that are related element by element are still so once they are sorted, if related elements
compare the same. -/
theorem forall₂_mergeSort {β : Type} {R : α → β → Prop} {le : α → α → Bool} {le' : β → β → Bool}
    {l : List α} {l' : List β} (related : Forall₂ R l l')
    (agree : ∀ a a' b b', R a a' → R b b' → le a b = le' a' b') :
    Forall₂ R (l.mergeSort le) (l'.mergeSort le') := by
  -- The list of pairs is sorted once, and both lists are sorted with it.
  let pairs := l.zip l'
  let sorted := pairs.mergeSort fun p q => le p.1 q.1
  have fst : pairs.map Prod.fst = l := List.map_fst_zip (Nat.le_of_eq related.length_eq)
  have snd : pairs.map Prod.snd = l' := List.map_snd_zip (Nat.le_of_eq related.length_eq.symm)
  have first : sorted.map Prod.fst = l.mergeSort le := by
    rw [← fst]
    exact List.map_mergeSort fun _ _ _ _ => rfl
  have second : sorted.map Prod.snd = l'.mergeSort le' := by
    rw [← snd]
    refine List.map_mergeSort fun p hp q hq => ?_
    exact agree _ _ _ _ (forall₂_zip related hp) (forall₂_zip related hq)
  rw [← first, ← second, forall₂_map_left_iff, forall₂_map_right_iff, forall₂_same]
  intro p hp
  exact forall₂_zip related ((List.mergeSort_perm _ _).mem_iff.1 hp)

/-- Of two different elements of a list one stands before the other. -/
theorem pair_sublist_or {a b : α} (ha : a ∈ l) (hb : b ∈ l) (h : a ≠ b) :
    [a, b] <+ l ∨ [b, a] <+ l := by
  induction l with
  | nil => cases ha
  | cons c l ih =>
    rcases List.mem_cons.1 ha with rfl | ha'
    · rcases List.mem_cons.1 hb with rfl | hb'
      · exact absurd rfl h
      · exact .inl ((List.singleton_sublist.2 hb').cons_cons a)
    · rcases List.mem_cons.1 hb with rfl | hb'
      · exact .inr ((List.singleton_sublist.2 ha').cons_cons b)
      · exact (ih ha' hb').imp (fun s => s.cons c) fun s => s.cons c

/-- In a list without repetitions two elements stand in one order only. -/
theorem not_pair_sublist_swap {a b : α} (nodup : l.Nodup) (h : [a, b] <+ l) : ¬[b, a] <+ l := by
  induction l with
  | nil => exact fun _ => by cases h
  | cons c l ih =>
    obtain ⟨fresh, nodup⟩ := List.nodup_cons.1 nodup
    intro swapped
    cases h with
    | cons _ h =>
      cases swapped with
      | cons _ swapped => exact ih nodup h swapped
      | cons_cons _ swapped => exact fresh (h.mem (List.mem_cons_of_mem _ List.mem_cons_self))
    | cons_cons _ h =>
      cases swapped with
      | cons _ swapped => exact fresh (swapped.mem (List.mem_cons_of_mem _ List.mem_cons_self))
      | cons_cons _ swapped => exact fresh (h.mem List.mem_cons_self)

theorem bne_gt_eq_isLE (o : Ordering) : (o != .gt) = o.isLE := by
  cases o <;> rfl

section Order

variable (cmp : α → α → Ordering) [Std.TransCmp cmp]

theorem isLE_total (a b : α) : ((cmp a b).isLE || (cmp b a).isLE) = true := by
  rw [@Std.OrientedCmp.eq_swap _ cmp _ b]
  cases cmp a b <;> rfl

theorem pairwise_mergeSort_isLE (l : List α) :
    (l.mergeSort fun a b => (cmp a b).isLE).Pairwise fun a b => (cmp a b).isLE = true := by
  refine List.pairwise_mergeSort ?_ (isLE_total cmp) l
  intro a b c
  exact Std.TransCmp.isLE_trans

/-- Two elements of which the first may stand before the second keep the order in which they were
given. -/
theorem pair_sublist_of_isLE {a b : α} (given : [a, b] <+ l) (le : (cmp a b).isLE = true) :
    [a, b] <+ l.mergeSort fun a b => (cmp a b).isLE := by
  refine List.pair_sublist_mergeSort ?_ (isLE_total cmp) le given
  intro a b c
  exact Std.TransCmp.isLE_trans

/-- Between two equal elements stand only such that are equal to them. -/
theorem eq_of_between {a b c : α} (sorted : [a, b, c] <+ l.mergeSort fun a b => (cmp a b).isLE)
    (eq : cmp a c = .eq) : cmp a b = .eq := by
  have before {x y : α} (pair : [x, y] <+ [a, b, c]) : (cmp x y).isLE = true :=
    List.pairwise_iff_forall_sublist.1 (pairwise_mergeSort_isLE cmp l) (pair.trans sorted)
  have ab : (cmp a b).isLE = true := before (by simp)
  have bc : (cmp b c).isLE = true := before (by simp)
  have ca : (cmp c a).isLE = true := by
    rw [@Std.OrientedCmp.eq_swap _ cmp, eq]
    rfl
  exact Std.OrientedCmp.isLE_antisymm ab (Std.TransCmp.isLE_trans bc ca)

/-- Sorting keeps the elements that are equal to a given one, and their order. -/
theorem filter_mergeSort_isEq (a : α) (l : List α) :
    (l.mergeSort fun a b => (cmp a b).isLE).filter (fun b => (cmp a b).isEq) =
      l.filter fun b => (cmp a b).isEq := by
  have perm : (l.mergeSort fun a b => (cmp a b).isLE).Perm l := List.mergeSort_perm l _
  let ties := l.filter fun b => (cmp a b).isEq
  have equal : ties.Pairwise fun b c => (cmp b c).isLE = true := by
    refine List.pairwise_of_forall_mem_list fun b hb c hc => ?_
    have eq : cmp a b = .eq := by simpa using List.of_mem_filter hb
    have eq' : cmp a c = .eq := by simpa using List.of_mem_filter hc
    rw [← Std.TransCmp.congr_left eq, eq']
    rfl
  have kept : ties <+ l.mergeSort fun a b => (cmp a b).isLE := by
    refine List.sublist_mergeSort ?_ (isLE_total cmp) equal List.filter_sublist
    intro a b c
    exact Std.TransCmp.isLE_trans
  have sublist := kept.filter fun b => (cmp a b).isEq
  rw [List.filter_filter] at sublist
  simp only [Bool.and_self] at sublist
  exact (sublist.eq_of_length (perm.filter _).length_eq.symm).symm

/-- Sorted lists of the same elements are equal if elements that are equal in the order stand in the
same order in both. -/
theorem eq_of_filter_isEq {l l' : List α} (perm : l.Perm l')
    (sorted : l.Pairwise fun a b => (cmp a b).isLE = true)
    (sorted' : l'.Pairwise fun a b => (cmp a b).isLE = true)
    (ties : ∀ a ∈ l, (l.filter fun b => (cmp a b).isEq) = l'.filter fun b => (cmp a b).isEq) :
    l = l' := by
  induction l generalizing l' with
  | nil => exact perm.nil_eq
  | cons a l ih =>
    cases l' with
    | nil => exact absurd perm.length_eq (Nat.succ_ne_zero _)
    | cons b l' =>
      obtain ⟨first, tail⟩ := List.pairwise_cons.1 sorted
      obtain ⟨first', tail'⟩ := List.pairwise_cons.1 sorted'
      have least : ∀ c ∈ a :: l, (cmp a c).isLE = true :=
        List.forall_mem_cons.2 ⟨Std.ReflCmp.isLE_rfl, first⟩
      have least' : ∀ c ∈ b :: l', (cmp b c).isLE = true :=
        List.forall_mem_cons.2 ⟨Std.ReflCmp.isLE_rfl, first'⟩
      -- Each of the two heads is in the other list too, so neither comes after the other.
      have le : (cmp a b).isLE = true := least b (perm.mem_iff.2 List.mem_cons_self)
      have ge : (cmp b a).isLE = true := least' a (perm.mem_iff.1 List.mem_cons_self)
      have tie : cmp a b = .eq := Std.OrientedCmp.isLE_antisymm le ge
      have self : cmp a a = .eq := Std.ReflCmp.compare_self
      have heads := ties a List.mem_cons_self
      simp only [List.filter_cons, self, tie, Ordering.isEq_eq, if_true] at heads
      obtain rfl : a = b := (List.cons.inj heads).1
      refine congrArg (List.cons a) (ih perm.cons_inv tail tail' fun c hc => ?_)
      have rest := ties c (List.mem_cons_of_mem a hc)
      rw [List.filter_cons, List.filter_cons] at rest
      split at rest
      · exact (List.cons.inj rest).2
      · exact rest

/-- A list is sorted, with equal elements in the order given, if and only if it is what sorting
gives. -/
theorem eq_mergeSort_iff {l l' : List α} :
    l' = l.mergeSort (fun a b => (cmp a b).isLE) ↔ l'.Perm l ∧
      (l'.Pairwise fun a b => (cmp a b).isLE = true) ∧
      ∀ a ∈ l, (l'.filter fun b => (cmp a b).isEq) = l.filter fun b => (cmp a b).isEq := by
  have perm : (l.mergeSort fun a b => (cmp a b).isLE).Perm l := List.mergeSort_perm l _
  constructor
  · rintro rfl
    exact ⟨perm, pairwise_mergeSort_isLE cmp l, fun a _ => filter_mergeSort_isEq cmp a l⟩
  · rintro ⟨same, sorted, ties⟩
    refine eq_of_filter_isEq cmp (same.trans perm.symm) sorted (pairwise_mergeSort_isLE cmp l) ?_
    intro a ha
    rw [ties a (same.mem_iff.1 ha), filter_mergeSort_isEq]

/-- Elements that are equal in the order keep the order in which they were given. -/
theorem pairwise_mergeSort_then {R : α → α → Prop} (nodup : l.Nodup) (given : l.Pairwise R) :
    (l.mergeSort fun a b => (cmp a b).isLE).Pairwise fun a b =>
      cmp a b = .lt ∨ (cmp a b = .eq ∧ R a b) := by
  have perm : (l.mergeSort fun a b => (cmp a b).isLE).Perm l := List.mergeSort_perm l _
  rw [List.pairwise_iff_forall_sublist]
  intro a b after
  have le : (cmp a b).isLE = true :=
    List.pairwise_iff_forall_sublist.1 (pairwise_mergeSort_isLE cmp l) after
  have distinct : a ≠ b := by
    have pair : [a, b].Nodup := (perm.nodup_iff.2 nodup).sublist after
    simpa using pair
  cases h : cmp a b with
  | lt => exact .inl rfl
  | gt =>
    rw [h] at le
    cases le
  | eq =>
    refine .inr ⟨rfl, ?_⟩
    have ha : a ∈ l := perm.mem_iff.1 (after.mem List.mem_cons_self)
    have hb : b ∈ l := perm.mem_iff.1 (after.mem (List.mem_cons_of_mem _ List.mem_cons_self))
    rcases pair_sublist_or ha hb distinct with before | swapped
    · exact List.pairwise_iff_forall_sublist.1 given before
    · -- Had `b` been given first, it would stand first, for the two are equal.
      have le' : (cmp b a).isLE = true := by
        rw [@Std.OrientedCmp.eq_swap _ cmp, h]
        rfl
      have first : [b, a] <+ l.mergeSort fun a b => (cmp a b).isLE :=
        pair_sublist_of_isLE cmp swapped le'
      exact absurd after (not_pair_sublist_swap (perm.nodup_iff.2 nodup) first)

end Order

section Twice

variable (cmp₁ cmp₂ : α → α → Ordering) [Std.TransCmp cmp₁] [Std.TransCmp cmp₂]

theorem mergeSort_mergeSort_of_nodup (nodup : l.Nodup) :
    (l.mergeSort fun a b => (cmp₂ a b).isLE).mergeSort (fun a b => (cmp₁ a b).isLE) =
      l.mergeSort fun a b => (compareLex cmp₁ cmp₂ a b).isLE := by
  -- Either list is the one in which elements stand in the order of both and then as in `l`.
  let before (a b : α) : Prop :=
    compareLex cmp₁ cmp₂ a b = .lt ∨ (compareLex cmp₁ cmp₂ a b = .eq ∧ [a, b] <+ l)
  have given : l.Pairwise fun a b => [a, b] <+ l := List.pairwise_iff_forall_sublist.2 id
  have perm : (l.mergeSort fun a b => (cmp₂ a b).isLE).Perm l := List.mergeSort_perm l _
  have twice : ((l.mergeSort fun a b => (cmp₂ a b).isLE).mergeSort
      fun a b => (cmp₁ a b).isLE).Pairwise before := by
    refine (pairwise_mergeSort_then cmp₁ (perm.nodup_iff.2 nodup)
      (pairwise_mergeSort_then cmp₂ nodup given)).imp ?_
    rintro a b (lt | ⟨eq, lt | ⟨eq', sub⟩⟩)
    · exact .inl (Ordering.then_eq_lt.2 (.inl lt))
    · exact .inl (Ordering.then_eq_lt.2 (.inr ⟨eq, lt⟩))
    · exact .inr ⟨Ordering.then_eq_eq.2 ⟨eq, eq'⟩, sub⟩
  have once : (l.mergeSort fun a b => (compareLex cmp₁ cmp₂ a b).isLE).Pairwise before :=
    pairwise_mergeSort_then (compareLex cmp₁ cmp₂) nodup given
  refine List.Perm.eq_of_pairwise ?_ twice once
    (((List.mergeSort_perm _ _).trans perm).trans (List.mergeSort_perm l _).symm)
  intro a b _ _ ab ba
  have swap : compareLex cmp₁ cmp₂ b a = (compareLex cmp₁ cmp₂ a b).swap :=
    Std.OrientedCmp.eq_swap
  simp only [before, swap, Ordering.swap_eq_lt, Ordering.swap_eq_eq] at ab ba
  rcases ab with lt | ⟨eq, sub⟩
  · simp [lt] at ba
  · simp only [eq, reduceCtorEq, false_or, true_and] at ba
    exact absurd ba (not_pair_sublist_swap nodup sub)

/-- Sorting by one order and then by another is sorting by the other first and by the one among
elements that are equal in it. -/
theorem mergeSort_mergeSort (l : List α) :
    (l.mergeSort fun a b => (cmp₂ a b).isLE).mergeSort (fun a b => (cmp₁ a b).isLE) =
      l.mergeSort fun a b => (compareLex cmp₁ cmp₂ a b).isLE := by
  -- Places tell apart the elements that occur more than once.
  let lift (cmp : α → α → Ordering) (p q : α × Nat) : Ordering := cmp p.1 q.1
  have lifted (cmp : α → α → Ordering) [Std.TransCmp cmp] : Std.TransCmp (lift cmp) :=
    { eq_swap := @fun p q => @Std.OrientedCmp.eq_swap _ cmp _ p.1 q.1
      isLE_trans := @fun p q r => @Std.TransCmp.isLE_trans _ cmp _ p.1 q.1 r.1 }
  have fst (cmp : α → α → Ordering) (ps : List (α × Nat)) :
      (ps.mergeSort fun p q => (lift cmp p q).isLE).map Prod.fst =
        (ps.map Prod.fst).mergeSort fun a b => (cmp a b).isLE :=
    List.map_mergeSort fun _ _ _ _ => rfl
  have nodup : l.zipIdx.Nodup := by
    refine List.Nodup.of_map Prod.snd ?_
    rw [List.zipIdx_map_snd]
    exact List.nodup_range'
  have := lifted cmp₁
  have := lifted cmp₂
  have places := congrArg (List.map Prod.fst)
    (mergeSort_mergeSort_of_nodup (lift cmp₁) (lift cmp₂) nodup)
  rw [fst, fst, List.zipIdx_map_fst] at places
  rw [places]
  exact (fst (compareLex cmp₁ cmp₂) l.zipIdx).trans (by rw [List.zipIdx_map_fst])

end Twice

/-- Sorted by falling numbers, elements of the same number keep the order in which they were
given. -/
theorem pairwise_mergeSort_falling {R : α → α → Prop} (f : α → Nat) (nodup : l.Nodup)
    (given : l.Pairwise R) :
    (l.mergeSort fun a b => f b ≤ f a).Pairwise fun a b => f b < f a ∨ (f a = f b ∧ R a b) := by
  let cmp (a b : α) : Ordering := compare (f b) (f a)
  have : Std.TransCmp cmp := inferInstanceAs (Std.TransCmp fun a b => compareOn f b a)
  have sorted : (l.mergeSort fun a b => f b ≤ f a) = l.mergeSort fun a b => (cmp a b).isLE := by
    refine mergeSort_congr fun a _ b _ => ?_
    rw [Bool.eq_iff_iff, decide_eq_true_iff]
    exact Nat.isLE_compare.symm
  rw [sorted]
  refine (pairwise_mergeSort_then cmp nodup given).imp ?_
  rintro a b (lt | ⟨eq, before⟩)
  · exact .inl (Nat.compare_eq_lt.1 lt)
  · exact .inr ⟨(Nat.compare_eq_eq.1 eq).symm, before⟩

end OrderRetrieval.Sorting

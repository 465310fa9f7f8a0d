import Mathlib.Data.List.Induction
import Mathlib.Data.List.Perm.Subperm

/-!
# Different items of a list

`List.eraseDups` keeps each item where the list has it first.
-/

namespace OrderRetrieval

variable {α : Type} [BEq α] [LawfulBEq α]

theorem eraseDups_concat (xs : List α) (x : α) :
    (xs ++ [x]).eraseDups = if x ∈ xs then xs.eraseDups else xs.eraseDups ++ [x] := by
  rw [List.eraseDups_append]
  by_cases seen : x ∈ xs
  · simp [List.removeAll, seen]
  · simp [List.removeAll, seen, List.eraseDups_cons]

/-- The different items of a list stand in the order in which the list has them first. -/
theorem pairwise_eraseDups (xs : List α) :
    xs.eraseDups.Pairwise fun x y => xs.idxOf x < xs.idxOf y := by
  induction xs using List.reverseRecOn with
  | nil => exact .nil
  | append_singleton xs x ih =>
    have before : xs.eraseDups.Pairwise fun y z => (xs ++ [x]).idxOf y < (xs ++ [x]).idxOf z := by
      refine ih.imp_of_mem fun hy hz less => ?_
      rw [List.idxOf_append_of_mem (List.mem_eraseDups.1 hy),
        List.idxOf_append_of_mem (List.mem_eraseDups.1 hz)]
      exact less
    rw [eraseDups_concat]
    split
    · exact before
    · next new =>
      refine List.pairwise_append.2 ⟨before, List.pairwise_singleton _ x, fun y hy z hz => ?_⟩
      obtain rfl := List.mem_singleton.1 hz
      have mem : y ∈ xs := List.mem_eraseDups.1 hy
      rw [List.idxOf_append_of_mem mem, List.idxOf_append_of_notMem new]
      have := List.idxOf_lt_length_of_mem mem
      omega

theorem nodup_eraseDups (xs : List α) : xs.eraseDups.Nodup := by
  refine (pairwise_eraseDups xs).imp fun less same => ?_
  rw [same] at less
  exact Nat.lt_irrefl _ less

/-- A list has no more different items than another one that has them all. -/
theorem length_eraseDups_le {xs ys : List α} (sub : xs ⊆ ys) :
    xs.eraseDups.length ≤ ys.eraseDups.length := by
  refine (List.subperm_of_subset (nodup_eraseDups xs) fun x hx => ?_).length_le
  exact List.mem_eraseDups.2 (sub (List.mem_eraseDups.1 hx))

/-- What tells the items of a list apart maps its different items to different items. -/
theorem eraseDups_map {β : Type} [BEq β] [LawfulBEq β] {g : α → β} {xs : List α}
    (inj : ∀ x ∈ xs, ∀ y ∈ xs, g x = g y → x = y) :
    (xs.map g).eraseDups = xs.eraseDups.map g := by
  induction xs using List.reverseRecOn with
  | nil => rfl
  | append_singleton xs x ih =>
    have last : x ∈ xs ++ [x] := List.mem_append_right xs (List.mem_singleton_self x)
    have earlier : ∀ y ∈ xs, y ∈ xs ++ [x] := fun y => List.mem_append_left [x]
    have seen : g x ∈ xs.map g ↔ x ∈ xs := by
      refine ⟨fun mem => ?_, List.mem_map_of_mem⟩
      obtain ⟨y, hy, same⟩ := List.mem_map.1 mem
      exact inj y (earlier y hy) x last same ▸ hy
    rw [List.map_append, List.map_singleton, eraseDups_concat, eraseDups_concat,
      ih fun y hy z hz => inj y (earlier y hy) z (earlier z hz)]
    simp only [seen]
    split
    · rfl
    · rw [List.map_append, List.map_singleton]

end OrderRetrieval

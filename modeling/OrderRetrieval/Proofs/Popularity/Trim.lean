import OrderRetrieval.Proofs.Popularity.Shared
import OrderRetrieval.Proofs.Popularity.Tally
import OrderRetrieval.Proofs.Text.Bytes

/-!
# What a trim keeps

A trim keeps as many entries as there is room for, and none that it drops outranks one that it
keeps.  In a tally the higher count outranks the lower one, and of equal counts the one that stands
first (`Tally.exists_trim`).  In a sorted set the higher score outranks the lower one, and of equal
scores the one whose term has the greater bytes (`SortedSet.Holds.keepsHighest`).
-/

namespace OrderRetrieval

section Keeps

variable {α : Type}

/-- What is left of different terms when as many of the highest rank are kept as there is room
for. -/
structure KeepsHighest (size : Nat) (outranks : String × α → String × α → Prop)
    (before after : List (String × α)) : Prop where
  nodup : (before.map Prod.fst).Nodup
  subperm : after.Subperm before
  length_eq : after.length = min size before.length
  outranks : ∀ e ∈ before, e ∉ after → ∀ k ∈ after, outranks k e

variable {size : Nat} {outranks : String × α → String × α → Prop}
variable {before after : List (String × α)}

theorem KeepsHighest.length_le (h : KeepsHighest size outranks before after) :
    after.length ≤ size :=
  h.length_eq ▸ Nat.min_le_left _ _

theorem nodup_map_of_subperm {β : Type} {f : α → β} {l l' : List α} (nodup : (l'.map f).Nodup)
    (sub : l.Subperm l') : (l.map f).Nodup := by
  obtain ⟨k, perm, sub⟩ := sub
  exact (perm.map f).nodup_iff.1 (nodup.sublist (sub.map f))

theorem KeepsHighest.nodup_after (h : KeepsHighest size outranks before after) :
    (after.map Prod.fst).Nodup :=
  nodup_map_of_subperm h.nodup h.subperm

/-- Where there is room for all entries, none is dropped. -/
theorem KeepsHighest.perm (h : KeepsHighest size outranks before after)
    (room : before.length ≤ size) : after.Perm before :=
  h.subperm.perm_of_length_le (by rw [h.length_eq, Nat.min_eq_right room])

theorem KeepsHighest.of_append {kept : List (String × α)} (dropped : List (String × α))
    (nodup : (before.map Prod.fst).Nodup) (perm : (kept ++ dropped).Perm before)
    (length_eq : kept.length = min size before.length)
    (above : ∀ k ∈ kept, ∀ e ∈ dropped, outranks k e) :
    KeepsHighest size outranks before kept where
  nodup := nodup
  subperm := (List.sublist_append_left kept dropped).subperm.trans perm.subperm
  length_eq := length_eq
  outranks e he gone k hk := by
    rcases List.mem_append.1 (perm.mem_iff.2 he) with here | there
    · exact absurd here gone
    · exact above k hk e there

/-- Keeping all entries is right where there is room for them. -/
theorem KeepsHighest.of_room (nodup : (before.map Prod.fst).Nodup) (room : before.length ≤ size) :
    KeepsHighest size outranks before before := by
  refine .of_append [] nodup (by rw [List.append_nil]) (by omega) ?_
  exact fun _ _ _ mem => absurd mem List.not_mem_nil

theorem rel_of_mem_take_of_mem_drop {R : α → α → Prop} {l : List α} (sorted : l.Pairwise R)
    {n : Nat} {a b : α} (ha : a ∈ l.take n) (hb : b ∈ l.drop n) : R a b := by
  rw [← List.take_append_drop n l, List.pairwise_append] at sorted
  exact sorted.2.2 a ha b hb

end Keeps

/-! ## Tallies -/

namespace Tally

/-- Whether the first of two entries of a tally has the higher count, or stands first among equal
ones. -/
def Outranks (tally : Tally) (a b : String × Nat) : Prop :=
  b.2 < a.2 ∨ (a.2 = b.2 ∧ tally.idxOf a < tally.idxOf b)

theorem pairwise_outranks {tally : Tally} (nodup : tally.Nodup) :
    tally.ranked.Pairwise tally.Outranks := by
  have given : tally.Pairwise fun a b => tally.idxOf a < tally.idxOf b := by
    refine List.pairwise_iff_getElem.2 fun i j hi hj less => ?_
    rwa [nodup.idxOf_getElem, nodup.idxOf_getElem]
  exact Sorting.pairwise_mergeSort_falling Prod.snd nodup given

/-- A trim keeps the terms of the highest counts. -/
theorem exists_trim {tally : Tally} (nodup : (tally.map Prod.fst).Nodup) (size : Nat) :
    ∃ kept, tally.trim (.whole size) = .ok kept ∧
      KeepsHighest size tally.Outranks tally kept := by
  unfold trim
  split
  · next more =>
    have less : size < tally.length := by simpa [Quantity.lt] using more
    refine ⟨tally.ranked.take size, rfl, .of_append (tally.ranked.drop size) nodup ?_ ?_ ?_⟩
    · rw [List.take_append_drop]
      exact List.mergeSort_perm _ _
    · rw [List.length_take, ranked, List.length_mergeSort]
    · intro k hk e he
      exact rel_of_mem_take_of_mem_drop (pairwise_outranks (nodup.of_map _)) hk he
  · next room =>
    have le : tally.length ≤ size := by simpa [Quantity.lt] using room
    exact ⟨tally, rfl, .of_room nodup le⟩

end Tally

/-! ## Sorted sets -/

namespace SortedSet

/-- Whether the first of two members has the higher score, or of equal scores the greater bytes. -/
def Outranks (a b : String × Float) : Prop :=
  Double.lt b.2 a.2 = true ∨ (Double.eq a.2 b.2 = true ∧ Text.bytes b.1 < Text.bytes a.1)

/-- A range of ranks from the lowest leaves the members above it. -/
theorem withoutRange_eq_drop (s : SortedSet) (size : Nat) :
    s.withoutRange 0 (-((size : Int) + 1)) = s.drop (s.length - size) := by
  have all : window s.length 0 (-((size : Int) + 1)) = (0, s.length - size) := by
    unfold window
    rw [if_neg (by omega), if_pos (by omega)]
    refine Prod.ext rfl ?_
    simp only
    omega
  simp only [withoutRange, all, List.take_zero, List.nil_append, Nat.zero_add]

variable {s : SortedSet} {count : String → Nat}

theorem Holds.outranks (h : s.Holds count) {a b : String × Float} (ha : a ∈ s) (hb : b ∈ s)
    (above : before b a = true) : Outranks a b := by
  obtain ⟨t, x⟩ := a
  obtain ⟨u, y⟩ := b
  obtain ⟨first, rfl⟩ := (h.mem_iff t x).1 ha
  obtain ⟨second, rfl⟩ := (h.mem_iff u y).1 hb
  rcases (before_iff second first).1 above with less | ⟨le, less⟩
  · exact .inl ((Double.lt_countUp_iff second first).2 less)
  · rcases Nat.lt_or_eq_of_le le with below | same
    · exact .inl ((Double.lt_countUp_iff second first).2 below)
    · exact .inr ⟨Double.eq_countUp second same.symm, Text.bytes_lt less⟩

/-- Dropping the lowest ranks keeps the members of the highest scores. -/
theorem Holds.keepsHighest (h : s.Holds count) (size : Nat) :
    KeepsHighest size Outranks s (s.withoutRange 0 (-((size : Int) + 1))) := by
  rw [withoutRange_eq_drop]
  refine .of_append (s.take (s.length - size)) h.nodup ?_ ?_ ?_
  · exact List.perm_append_comm.trans (.of_eq (List.take_append_drop _ s))
  · rw [List.length_drop]
    omega
  · intro k hk e he
    exact h.outranks (List.mem_of_mem_drop hk) (List.mem_of_mem_take he)
      (rel_of_mem_take_of_mem_drop h.ordered he hk)

end SortedSet

end OrderRetrieval

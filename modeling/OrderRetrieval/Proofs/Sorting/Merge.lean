import OrderRetrieval.Proofs.Sorting.Run
import OrderRetrieval.Sorting.Merge

/-!
# When runs are merged

Merging two runs compares only items of one with items of the other, so it fails only as comparing
an item of one with one of the other does (`merge_ends`).  What has been merged does not count:
every step keeps what is left of each run within that run (`Merging.Holds`).
-/

namespace OrderRetrieval.Sorting

variable {α ε : Type} {before : α → α → Except ε Bool} {F : ε → Prop}

/-! ## Galloping -/

section Galloping

variable {test : Nat → Except ε Bool} (tests : ∀ i, Except.FailsOnly F (test i))

include tests

theorem strides_failsOnly (limit fuel last place : Nat) :
    Except.FailsOnly F (strides test limit fuel last place) := by
  induction fuel, last, place using strides.induct limit with
  | case1 last place => exact Except.failsOnly_ok _
  | case2 fuel last place less next =>
    rw [strides, if_pos less]
    refine Except.failsOnly_bind.2 ⟨tests place, fun passed _ => ?_⟩
    cases passed with
    | true => exact next
    | false => exact Except.failsOnly_ok _
  | case3 fuel last place done =>
    rw [strides, if_neg done]
    exact Except.failsOnly_ok _

theorem halve_failsOnly (low high : Nat) : Except.FailsOnly F (halve test low high) := by
  induction low, high using halve.induct with
  | case1 low high less middle right left =>
    rw [halve, dif_pos less]
    refine Except.failsOnly_bind.2 ⟨tests middle, fun passed _ => ?_⟩
    cases passed with
    | true => exact right
    | false => exact left
  | case2 low high done =>
    rw [halve, dif_neg done]
    exact Except.failsOnly_ok low

theorem gallop_failsOnly (count hint : Nat) : Except.FailsOnly F (gallop test count hint) := by
  unfold gallop
  refine Except.failsOnly_bind.2 ⟨tests hint, fun passed _ => ?_⟩
  cases passed with
  | true =>
    refine Except.failsOnly_bind.2
      ⟨strides_failsOnly (fun k => tests (hint + k)) (count - hint) count 0 1, ?_⟩
    rintro ⟨last, place⟩ -
    exact halve_failsOnly tests (hint + last + 1) (hint + place)
  | false =>
    have fails (k : Nat) : Except.FailsOnly F ((test (hint - k)).map (!·)) :=
      Except.failsOnly_map.2 (tests (hint - k))
    refine Except.failsOnly_bind.2 ⟨strides_failsOnly fails (hint + 1) count 0 1, ?_⟩
    rintro ⟨last, place⟩ -
    exact halve_failsOnly tests (hint + 1 - place) (hint - last)

theorem Side.gallop_failsOnly (side : Side) (count : Nat) :
    Except.FailsOnly F (side.gallop test count) := by
  cases side with
  | low => exact Sorting.gallop_failsOnly tests count 0
  | high => exact Except.failsOnly_map.2 (Sorting.gallop_failsOnly tests count (count - 1))

end Galloping

/-! ## Merging -/

theorem Side.mem_of_item? {side : Side} {xs : Array α} {x : α} (h : side.item? xs = some x) :
    x ∈ xs := by
  cases side with
  | low => exact Array.mem_of_getElem? h
  | high =>
    obtain ⟨ys, rfl⟩ := Array.back?_eq_some_iff.1 h
    exact Array.mem_push_self

theorem mem_of_mem_extract {xs : Array α} {i j : Nat} {z : α} (h : z ∈ xs.extract i j) :
    z ∈ xs := by
  rw [← Array.mem_toList_iff, Array.toList_extract] at h
  exact Array.mem_toList_iff.1 (List.mem_of_mem_drop (List.mem_of_mem_take h))

theorem Side.mem_of_mem_split {side : Side} {n : Nat} {xs : Array α} {z : α}
    (h : z ∈ (side.split n xs).1 ∨ z ∈ (side.split n xs).2) : z ∈ xs := by
  cases side with
  | low => exact h.elim mem_of_mem_extract mem_of_mem_extract
  | high => exact h.elim mem_of_mem_extract mem_of_mem_extract

namespace Merging

/-- Whether what is left of two runs is of the kinds that the runs hold, and what has been merged is
of either. -/
structure Holds (P Q : α → Prop) (m : Merging α) : Prop where
  left : ∀ z ∈ m.left, P z
  right : ∀ z ∈ m.right, Q z
  merged : ∀ z ∈ m.merged, P z ∨ Q z

variable {P Q : α → Prop} {m : Merging α} {side : Side}

theorem Holds.put (h : m.Holds P Q) {stretch : Array α} (mem : ∀ z ∈ stretch, P z ∨ Q z) :
    (m.put side stretch).Holds P Q := by
  cases side with
  | low => exact ⟨h.left, h.right, fun z hz => (Array.mem_append.1 hz).elim (h.merged z) (mem z)⟩
  | high => exact ⟨h.left, h.right, fun z hz => (Array.mem_append.1 hz).elim (mem z) (h.merged z)⟩

theorem Holds.takeLeft (h : m.Holds P Q) (n : Nat) : (m.takeLeft side n).Holds P Q := by
  have rest : (Merging.mk (side.split n m.left).2 m.right m.merged).Holds P Q :=
    ⟨fun z hz => h.left z (Side.mem_of_mem_split (.inr hz)), h.right, h.merged⟩
  exact rest.put fun z hz => .inl (h.left z (Side.mem_of_mem_split (.inl hz)))

theorem Holds.takeRight (h : m.Holds P Q) (n : Nat) : (m.takeRight side n).Holds P Q := by
  have rest : (Merging.mk m.left (side.split n m.right).2 m.merged).Holds P Q :=
    ⟨h.left, fun z hz => h.right z (Side.mem_of_mem_split (.inr hz)), h.merged⟩
  exact rest.put fun z hz => .inr (h.right z (Side.mem_of_mem_split (.inl hz)))

theorem Holds.mem_result (h : m.Holds P Q) : ∀ z ∈ m.result side, P z ∨ Q z := by
  intro z hz
  have parts : z ∈ m.left ∨ z ∈ m.right ∨ z ∈ m.merged := by
    cases side with
    | low =>
      simp only [result, Array.mem_append] at hz
      grind
    | high =>
      simp only [result, Array.mem_append] at hz
      grind
  rcases parts with hl | hr | hm
  · exact .inl (h.left z hl)
  · exact .inr (h.right z hr)
  · exact h.merged z hm

section Steps

variable (compares : ∀ x y, P x → Q y → ComparesBut before F x y)

include compares

theorem gallopLeft_ends (h : m.Holds P Q) :
    Except.Ends F (fun r => r.2.Holds P Q) (m.gallopLeft before side) := by
  unfold gallopLeft
  split
  · exact h
  · next x hx =>
    have right : Q x := h.right x (Side.mem_of_item? hx)
    refine (Side.gallop_failsOnly (fun i => ?_) side m.left.size).ends.bind fun n _ => h.takeLeft n
    cases hy : m.left[i]? with
    | none => exact Except.failsOnly_ok false
    | some y =>
      have left : P y := h.left y (Array.mem_of_getElem? hy)
      exact Except.failsOnly_map.2 (compares y x left right).2

theorem gallopRight_ends (h : m.Holds P Q) :
    Except.Ends F (fun r => r.2.Holds P Q) (m.gallopRight before side) := by
  unfold gallopRight
  split
  · exact h
  · next x hx =>
    have left : P x := h.left x (Side.mem_of_item? hx)
    refine (Side.gallop_failsOnly (fun i => ?_) side m.right.size).ends.bind
      fun n _ => h.takeRight n
    cases hy : m.right[i]? with
    | none => exact Except.failsOnly_ok false
    | some y => exact (compares x y left (h.right y (Array.mem_of_getElem? hy))).2

theorem gallopBoth_ends (h : m.Holds P Q) :
    Except.Ends F (fun r => r.2.2.Holds P Q) (m.gallopBoth before side) := by
  refine (gallopLeft_ends compares h).bind ?_
  rintro ⟨i, m⟩ (hm : m.Holds P Q)
  dsimp only
  split
  · exact hm
  · split
    · exact hm.takeRight 1
    · refine (gallopRight_ends compares (hm.takeRight 1)).bind ?_
      rintro ⟨j, m⟩ (hm : m.Holds P Q)
      dsimp only
      split
      · exact hm
      · exact hm.takeLeft 1

theorem gallopOn_ends (h : m.Holds P Q) (fuel enough : Nat) :
    Except.Ends F (fun r => r.2.Holds P Q) (m.gallopOn before side fuel enough) := by
  induction fuel generalizing enough m with
  | zero => exact h
  | succ fuel ih =>
    refine (gallopBoth_ends compares h).bind ?_
    rintro ⟨i, j, m⟩ (hm : m.Holds P Q)
    dsimp only
    split
    · exact hm
    · split
      · exact ih hm _
      · exact hm

theorem run_ends (h : m.Holds P Q) (fuel enough lefts rights : Nat) :
    Except.Ends F (fun r => r.2.Holds P Q) (run before side fuel enough lefts rights m) := by
  induction fuel generalizing enough lefts rights m with
  | zero => exact h
  | succ fuel ih =>
    -- After one item was moved, the merge ends, gallops or goes on.
    have next (m : Merging α) (hm : m.Holds P Q) (lefts rights : Nat) :
        Except.Ends F (fun r => r.2.Holds P Q)
          (if m.isDone side then .ok (enough, m)
          else if enough ≤ max lefts rights then
            m.gallopOn before side fuel (enough + 1) >>= fun r =>
              if r.2.isDone side then .ok r else run before side fuel r.1 0 0 r.2
          else run before side fuel enough lefts rights m) := by
      split
      · exact hm
      · split
        · refine (gallopOn_ends compares hm fuel _).bind ?_
          rintro ⟨enough, m⟩ (hm : m.Holds P Q)
          dsimp only
          split
          · exact hm
          · exact ih hm enough 0 0
        · exact ih hm enough lefts rights
    unfold run
    split
    · next x y hx hy =>
      have pair : ComparesBut before F x y :=
        compares x y (h.left x (Side.mem_of_item? hx)) (h.right y (Side.mem_of_item? hy))
      refine pair.2.ends.bind fun b _ => ?_
      cases b == (side == .low) with
      | true => exact next _ (h.takeRight 1) _ _
      | false => exact next _ (h.takeLeft 1) _ _
    · exact h

end Steps

end Merging

section Merge

variable {left right : Array α} (compares : ∀ x ∈ left, ∀ y ∈ right, ComparesBut before F x y)

include compares

/-- The parts of two runs that overlap are merged, and the others put before and after them. -/
theorem mergeOverlap_ends {first : Merging α} (h : first.Holds (· ∈ left) (· ∈ right))
    (side : Side) (fuel enough kept overlap : Nat) :
    Except.Ends F (fun r => ∀ z ∈ r.2, z ∈ left ∨ z ∈ right) (do
      let (enough, m) ←
        if first.isDone side then .ok (enough, first)
        else Merging.run before side fuel enough 0 0 first
      return (enough,
        left.extract 0 kept ++ m.result side ++ right.extract overlap right.size)) := by
  have joined (m : Merging α) (hm : m.Holds (· ∈ left) (· ∈ right)) :
      ∀ z ∈ left.extract 0 kept ++ m.result side ++ right.extract overlap right.size,
        z ∈ left ∨ z ∈ right := by
    intro z hz
    rcases Array.mem_append.1 hz with hz | hz
    · rcases Array.mem_append.1 hz with hz | hz
      · exact .inl (mem_of_mem_extract hz)
      · exact hm.mem_result z hz
    · exact .inr (mem_of_mem_extract hz)
  split
  · exact joined first h
  · refine (Merging.run_ends (fun x y hx hy => compares x hx y hy) h _ _ 0 0).bind ?_
    rintro ⟨enough, m⟩ (hm : m.Holds _ _)
    exact joined m hm

/-- Merging two runs fails only as comparing an item of one with one of the other does. -/
theorem merge_ends (enough : Nat) :
    Except.Ends F (fun r => ∀ z ∈ r.2, z ∈ left ∨ z ∈ right) (merge before enough left right) := by
  have whole : (Merging.mk left right #[]).Holds (· ∈ left) (· ∈ right) :=
    ⟨fun _ h => h, fun _ h => h, fun z h => by simp at h⟩
  have both : ∀ z ∈ left ++ right, z ∈ left ∨ z ∈ right := fun z hz => Array.mem_append.1 hz
  refine (Merging.gallopLeft_ends (fun x y hx hy => compares x hx y hy) whole).bind ?_
  rintro ⟨kept, m⟩ (hm : m.Holds _ _)
  dsimp only
  split
  · exact both
  · next nonempty =>
    split
    · next empty => exact absurd (by simpa using empty) nonempty
    · next x hx =>
      have last : x ∈ left := hm.left x (@Side.mem_of_item? α .high m.left x hx)
      refine (gallop_failsOnly (F := F) (fun i => ?_) _ _).ends.bind fun overlap _ => ?_
      · cases hy : right[i]? with
        | none => exact Except.failsOnly_ok false
        | some y => exact (compares x last y (Array.mem_of_getElem? hy)).2
      · split
        · exact both
        · have overlapping : (Merging.mk m.left (right.extract 0 overlap) #[]).Holds
              (· ∈ left) (· ∈ right) :=
            ⟨hm.left, fun z hz => mem_of_mem_extract hz, fun z hz => by simp at hz⟩
          cases (if m.left.size ≤ overlap then Side.low else Side.high) with
          | low => exact mergeOverlap_ends compares (overlapping.takeRight 1) .low _ _ _ _
          | high => exact mergeOverlap_ends compares (overlapping.takeLeft 1) .high _ _ _ _

end Merge

end OrderRetrieval.Sorting

import OrderRetrieval.Proofs.Sorting.Merge
import OrderRetrieval.Sorting.Adaptive

/-!
# When an adaptive sort comes to an end

An adaptive merge sort compares only items that stand at different places of its list: those of
different waiting runs, and those of a waiting run with those of the list still to be cut (`Apart`).
So it fails only as comparing two of its items does (`sortAdaptively_failsOnly`) and comes to an end
if any two can be compared (`sortAdaptively_eq_ok`), and it fails if among several items that are
otherwise alike one cannot be compared (`sortAdaptively_eq_error`).
-/

namespace OrderRetrieval.Sorting

variable {α ε : Type} {before : α → α → Except ε Bool} {F : ε → Prop}

/-! ## Waiting runs -/

/-- Whether the items of two runs can be compared with each other, but for failures that have a
property. -/
def Meets (before : α → α → Except ε Bool) (F : ε → Prop) (a b : Array α) : Prop :=
  ∀ x ∈ a, ∀ y ∈ b, ComparesBut before F x y

theorem Meets.symm {a b : Array α} (h : Meets before F a b) : Meets before F b a := by
  intro x hx y hy
  exact (h y hy x hx).symm

/-- A run merged of two meets what both of them meet. -/
theorem Meets.of_merged {a b merged c : Array α} (ha : Meets before F a c)
    (hb : Meets before F b c) (mem : ∀ z ∈ merged, z ∈ a ∨ z ∈ b) : Meets before F merged c := by
  intro x hx
  rcases mem x hx with h | h
  · exact ha x h
  · exact hb x h

/-- Whether the items of any two of some runs can be compared, but for failures that have one
property, and each item has another. -/
structure Apart (before : α → α → Except ε Bool) (F : ε → Prop) (P : α → Prop)
    (runs : List (Array α)) : Prop where
  meets : runs.Pairwise (Meets before F)
  items : ∀ a ∈ runs, ∀ x ∈ a, P x

namespace Apart

variable {P : α → Prop} {a b : Array α} {runs : List (Array α)}

theorem mono {P' : α → Prop} (h : Apart before F P runs) (le : ∀ x, P x → P' x) :
    Apart before F P' runs :=
  ⟨h.meets, fun a ha x hx => le x (h.items a ha x hx)⟩

/-- Two neighbouring runs can be merged, and the merged run stands well in their place. -/
theorem merge_ends (h : Apart before F P (a :: b :: runs)) (enough : Nat) :
    Except.Ends F (fun r => Apart before F P (r.2 :: runs)) (merge before enough b a) := by
  obtain ⟨first, rest⟩ := List.pairwise_cons.1 h.meets
  obtain ⟨second, rest⟩ := List.pairwise_cons.1 rest
  have pair : Meets before F b a := (first b List.mem_cons_self).symm
  refine (Sorting.merge_ends pair enough).mono ?_
  rintro ⟨enough, merged⟩ mem
  refine ⟨List.pairwise_cons.2 ⟨?_, rest⟩, List.forall_mem_cons.2 ⟨?_, ?_⟩⟩
  · intro c hc
    exact (second c hc).of_merged (first c (List.mem_cons_of_mem b hc)) mem
  · intro x hx
    rcases mem x hx with hb | ha
    · exact h.items b (List.mem_cons_of_mem a List.mem_cons_self) x hb
    · exact h.items a List.mem_cons_self x ha
  · intro c hc
    exact h.items c (List.mem_cons_of_mem a (List.mem_cons_of_mem b hc))

/-- A run stands apart from others if their items can be compared with its own. -/
theorem cons_iff : Apart before F P (a :: runs) ↔
    (∀ x ∈ a, P x) ∧ Apart before F (fun y => P y ∧ ∀ x ∈ a, ComparesBut before F x y) runs := by
  constructor
  · rintro ⟨meets, items⟩
    rw [List.pairwise_cons] at meets
    rw [List.forall_mem_cons] at items
    refine ⟨items.1, meets.2, fun c hc y hy => ⟨items.2 c hc y hy, ?_⟩⟩
    exact fun x hx => meets.1 c hc x hx y hy
  · rintro ⟨items, rest⟩
    refine ⟨List.pairwise_cons.2 ⟨?_, rest.meets⟩, List.forall_mem_cons.2 ⟨items, ?_⟩⟩
    · intro c hc x hx y hy
      exact (rest.items c hc y hy).2 x hx
    · intro c hc y hy
      exact (rest.items c hc y hy).1

end Apart

/-- The waiting runs with powerful borders are merged. -/
theorem mergePowerful_ends {P : α → Prop} (power enough : Nat) (waiting : List (Waiting α))
    (apart : Apart before F P (waiting.map Waiting.run)) :
    Except.Ends F (fun r => Apart before F P (r.2.map Waiting.run))
      (mergePowerful before power enough waiting) := by
  induction enough, waiting using mergePowerful.induct power with
  | case1 enough last previous others less ih =>
    rw [mergePowerful, if_pos less]
    refine (apart.merge_ends enough).bind ?_
    rintro ⟨enough, run⟩ merged
    refine (ih enough run merged).bind ?_
    rintro ⟨enough, others⟩ h
    exact h
  | case2 enough last previous others less =>
    rw [mergePowerful, if_neg less]
    exact apart
  | case3 enough waiting short =>
    match waiting, short with
    | [], _ =>
      rw [mergePowerful]
      · exact apart
      · simp
    | [last], _ =>
      rw [mergePowerful]
      · exact apart
      · simp
    | last :: previous :: others, short => exact absurd rfl (short last previous others)

/-- Merging all waiting runs fails only as comparing their items does. -/
theorem mergeAll_failsOnly {P : α → Prop} (enough : Nat) (runs : List (Array α))
    (apart : Apart before F P runs) : Except.FailsOnly F (mergeAll before enough runs) := by
  induction enough, runs using mergeAll.induct with
  | case1 enough =>
    rw [mergeAll]
    exact Except.failsOnly_ok #[]
  | case2 enough run =>
    rw [mergeAll]
    exact Except.failsOnly_ok run
  | case3 enough last previous =>
    rw [mergeAll]
    exact Except.failsOnly_map.2 (apart.merge_ends enough).failsOnly
  | case4 enough last middle first others less ih =>
    obtain ⟨items, others⟩ := Apart.cons_iff.1 apart
    rw [mergeAll, if_pos less]
    refine ((others.merge_ends enough).bind (R := fun _ => True) ?_).failsOnly
    rintro ⟨enough, run⟩ merged
    exact (ih enough run (Apart.cons_iff.2 ⟨items, merged⟩)).ends
  | case5 enough last middle first others less ih =>
    rw [mergeAll, if_neg less]
    refine ((apart.merge_ends enough).bind (R := fun _ => True) ?_).failsOnly
    rintro ⟨enough, run⟩ merged
    exact (ih enough run merged).ends

/-- The runs of what is left of a list are found, if its items can be compared with each other and
with those of the waiting runs. -/
theorem collect_ends (size fuel enough : Nat) {waiting : List (Waiting α)} {xs : List α}
    (compares : xs.Pairwise (ComparesBut before F))
    (apart : Apart before F (fun x => ∀ y ∈ xs, ComparesBut before F x y)
      (waiting.map Waiting.run)) :
    Except.Ends F (fun r => Apart before F (fun _ => True) (r.2.map Waiting.run))
      (collect before size fuel enough waiting xs) := by
  have found : Apart before F (fun _ => True) (waiting.map Waiting.run) :=
    apart.mono fun _ _ => trivial
  induction fuel generalizing enough waiting xs with
  | zero => exact found
  | succ fuel ih =>
    cases xs with
    | nil => exact found
    | cons x xs =>
      unfold collect
      refine (longRun_ends compares _).bind ?_
      rintro ⟨run, rest⟩ ⟨front, eq, mem⟩
      rw [eq] at compares apart
      dsimp only
      refine (mergePowerful_ends _ enough waiting apart).bind ?_
      rintro ⟨enough, waiting⟩ (apart : Apart before F _ _)
      have compares := List.pairwise_append.1 compares
      have longer : Apart before F (fun x => ∀ y ∈ rest, ComparesBut before F x y)
          (run :: waiting.map Waiting.run) := by
        refine Apart.cons_iff.2 ⟨?_, apart.mono fun y hy => ⟨?_, ?_⟩⟩
        · intro z hz y hy
          exact compares.2.2 z (mem z (Array.mem_toList_iff.2 hz)) y hy
        · intro z hz
          exact hy z (List.mem_append_right front hz)
        · intro z hz
          exact (hy z (List.mem_append_left rest (mem z (Array.mem_toList_iff.2 hz)))).symm
      exact ih enough compares.2.1 longer (longer.mono fun _ _ => trivial)

/-- Sorting fails only as comparing two items does. -/
theorem sortAdaptively_failsOnly {xs : List α} (compares : xs.Pairwise (ComparesBut before F)) :
    Except.FailsOnly F (sortAdaptively before xs) := by
  have apart : Apart before F (fun x => ∀ y ∈ xs, ComparesBut before F x y)
      (([] : List (Waiting α)).map Waiting.run) :=
    ⟨.nil, List.forall_mem_nil _⟩
  refine ((collect_ends xs.length xs.length Merging.worthwhile compares apart).bind
    (R := fun _ => True) ?_).failsOnly
  rintro ⟨enough, waiting⟩ apart
  exact (Except.failsOnly_bind_ok.2 (mergeAll_failsOnly enough _ apart)).ends

/-- Items of which any two can be compared are sorted. -/
theorem sortAdaptively_eq_ok {xs : List α} (compares : xs.Pairwise (Compares before)) :
    ∃ ys, sortAdaptively before xs = .ok ys := by
  rw [← Except.failsOnly_false_iff]
  exact sortAdaptively_failsOnly (compares.imp comparesBut_false_iff.2)

/-- One item that cannot be compared ends the sort of several that are otherwise alike. -/
theorem sortAdaptively_eq_error {e : ε} {bad : α → Prop} {xs : List α}
    (h : Fails before e bad xs) (several : 2 ≤ xs.length) (some_bad : ∃ x ∈ xs, bad x) :
    sortAdaptively before xs = .error e := by
  match xs, several with
  | x :: y :: rest, _ =>
    rw [sortAdaptively, List.length_cons, collect, longRun, firstRun_eq_error h some_bad]
    · rfl
    · exact List.cons_ne_nil x _

end OrderRetrieval.Sorting

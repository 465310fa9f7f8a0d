import OrderRetrieval.Proofs.Outcome
import OrderRetrieval.Sorting.Run

/-!
# When runs are found

Finding the first run of a list and bringing it to its length compares only items that stand at
different places of the list, so it fails only as comparing two of them does (`longRun_ends`).
Among items that are all alike the first run reaches to the first item that cannot be compared
(`firstRun_eq_error`).
-/

namespace OrderRetrieval.Sorting

variable {α ε : Type} {before : α → α → Except ε Bool} {F : ε → Prop}

/-- Whether two items can be compared, in either order. -/
def Compares (before : α → α → Except ε Bool) (a b : α) : Prop :=
  (∃ p, before a b = .ok p) ∧ ∃ p, before b a = .ok p

/-- Whether two items can be compared, in either order, but for failures that have a property. -/
def ComparesBut (before : α → α → Except ε Bool) (F : ε → Prop) (a b : α) : Prop :=
  Except.FailsOnly F (before a b) ∧ Except.FailsOnly F (before b a)

theorem ComparesBut.symm {a b : α} (h : ComparesBut before F a b) : ComparesBut before F b a :=
  ⟨h.2, h.1⟩

theorem comparesBut_false_iff {a b : α} :
    ComparesBut before (fun _ => False) a b ↔ Compares before a b :=
  and_congr Except.failsOnly_false_iff Except.failsOnly_false_iff

/-! ## Runs -/

/-- Whether the items of a run are taken from the front of a list of which something remains. -/
def IsFront (xs run rest : List α) : Prop := ∃ front, xs = front ++ rest ∧ ∀ z ∈ run, z ∈ front

theorem forall_mem_step {taken run : List α} {x : α} (mem : ∀ z ∈ run, z ∈ taken) :
    ∀ z ∈ x :: run, z ∈ taken ++ [x] := by
  rw [List.forall_mem_cons]
  constructor
  · exact List.mem_append_right taken List.mem_cons_self
  · intro z hz
    exact List.mem_append_left [x] (mem z hz)

/-- A stretch that falls is cut from the front of the list. -/
theorem fallingRun_ends {taken run xs : List α} {last : α} (mem : ∀ z ∈ last :: run, z ∈ taken)
    (compares : (last :: xs).Pairwise (ComparesBut before F)) :
    Except.Ends F (fun r => IsFront (taken ++ xs) r.1 r.2) (fallingRun before last run xs) := by
  induction xs generalizing taken run last with
  | nil => exact ⟨taken, rfl, mem⟩
  | cons x xs ih =>
    rw [List.pairwise_cons] at compares
    rw [fallingRun, List.append_cons]
    refine (compares.1 x List.mem_cons_self).2.ends.bind fun falls _ => ?_
    cases falls with
    | false => exact ⟨taken, (List.append_cons taken x xs).symm, mem⟩
    | true => exact ih (forall_mem_step mem) compares.2

/-- A stretch that rises is cut from the front of the list. -/
theorem risingRun_ends {taken run xs : List α} {last : α} (mem : ∀ z ∈ last :: run, z ∈ taken)
    (compares : (last :: xs).Pairwise (ComparesBut before F)) :
    Except.Ends F (fun r => IsFront (taken ++ xs) r.1 r.2) (risingRun before last run xs) := by
  have reversed : ∀ z ∈ (last :: run).reverse, z ∈ taken := by
    intro z hz
    exact mem z (List.mem_reverse.1 hz)
  induction xs generalizing taken run last with
  | nil => exact ⟨taken, rfl, reversed⟩
  | cons x xs ih =>
    rw [List.pairwise_cons] at compares
    rw [risingRun, List.append_cons]
    refine (compares.1 x List.mem_cons_self).2.ends.bind fun falls _ => ?_
    cases falls with
    | true => exact ⟨taken, (List.append_cons taken x xs).symm, reversed⟩
    | false =>
      refine ih (forall_mem_step mem) compares.2 ?_
      intro z hz
      exact forall_mem_step mem z (List.mem_reverse.1 hz)

theorem firstRun_ends {xs : List α} (compares : xs.Pairwise (ComparesBut before F)) :
    Except.Ends F (fun r => IsFront xs r.1 r.2) (firstRun before xs) := by
  match xs with
  | [] => exact ⟨[], rfl, fun _ h => h⟩
  | [x] => exact ⟨[x], rfl, fun _ h => h⟩
  | x :: y :: rest =>
    rw [List.pairwise_cons] at compares
    have taken : ∀ z ∈ [y, x], z ∈ [x, y] := by
      intro z hz
      exact List.mem_reverse.1 hz
    rw [firstRun]
    refine (compares.1 y List.mem_cons_self).2.ends.bind fun falls _ => ?_
    cases falls with
    | true => exact fallingRun_ends taken compares.2
    | false => exact risingRun_ends taken compares.2

/-- Finding the place of an item in a run fails only as comparing it with items of the run does. -/
theorem placeIn_failsOnly {run : Array α} {x : α} (compares : ∀ z ∈ run, ComparesBut before F z x)
    (low high : Nat) : Except.FailsOnly F (placeIn before run x low high) := by
  induction low, high using placeIn.induct run with
  | case1 low high less middle beyond =>
    have beyond : run[low + (high - low) / 2]? = none := beyond
    rw [placeIn, dif_pos less]
    simp only [beyond, Except.failsOnly_ok]
  | case2 low high less middle y found left right =>
    have found : run[low + (high - low) / 2]? = some y := found
    rw [placeIn, dif_pos less]
    simp only [found]
    refine Except.failsOnly_bind.2 ⟨(compares y (Array.mem_of_getElem? found)).2, fun b _ => ?_⟩
    cases b with
    | true => exact left
    | false => exact right
  | case3 low high done =>
    rw [placeIn, dif_neg done]
    exact Except.failsOnly_ok low

theorem insertInto_ends {run : Array α} {x : α} (compares : ∀ z ∈ run, ComparesBut before F z x) :
    Except.Ends F (fun r => ∀ z ∈ r, z = x ∨ z ∈ run) (insertInto before run x) := by
  refine (placeIn_failsOnly compares 0 run.size).ends.bind fun n _ => ?_
  intro z hz
  unfold Array.insertIdxIfInBounds at hz
  split at hz
  · exact Array.mem_insertIdx.1 hz
  · exact .inr hz

/-- Items that follow a run are put into their places in it. -/
theorem foldlM_insertInto_ends {front ys : List α} {run : Array α} (mem : ∀ z ∈ run, z ∈ front)
    (compares : (front ++ ys).Pairwise (ComparesBut before F)) :
    Except.Ends F (fun r => ∀ z ∈ r, z ∈ front ++ ys) (ys.foldlM (insertInto before) run) := by
  induction ys generalizing front run with
  | nil =>
    rw [List.append_nil]
    exact mem
  | cons y ys ih =>
    rw [List.foldlM_cons]
    rw [List.append_cons] at compares ⊢
    have first : ∀ z ∈ run, ComparesBut before F z y := by
      intro z hz
      have pair := (List.pairwise_append.1 (List.pairwise_append.1 compares).1).2.2
      exact pair z (mem z hz) y List.mem_cons_self
    refine (insertInto_ends first).bind ?_
    intro longer hlonger
    refine ih ?_ compares
    intro z hz
    rcases hlonger z hz with rfl | hz
    · exact List.mem_append_right front List.mem_cons_self
    · exact List.mem_append_left [y] (mem z hz)

/-- A run is cut from the front of a list and brought to its length. -/
theorem longRun_ends {xs : List α} (compares : xs.Pairwise (ComparesBut before F)) (least : Nat) :
    Except.Ends F (fun r => IsFront xs r.1.toList r.2) (longRun before least xs) := by
  refine (firstRun_ends compares).bind ?_
  rintro ⟨run, rest⟩ ⟨front, rfl, mem⟩
  have missing : (front ++ rest.take (least - run.length)).Pairwise (ComparesBut before F) :=
    compares.sublist ((List.take_sublist _ rest).append_left front)
  refine (foldlM_insertInto_ends ?_ missing).bind ?_
  · intro z hz
    exact mem z (List.mem_toArray.1 hz)
  · intro longer hlonger
    refine ⟨front ++ rest.take (least - run.length), ?_, ?_⟩
    · rw [List.append_assoc, List.take_append_drop]
    · intro z hz
      exact hlonger z (Array.mem_toList_iff.1 hz)

/-! ## A comparison that fails

Among items that are otherwise all alike the first run reaches to the first that cannot be
compared. -/

section Failing

variable {e : ε} {bad : α → Prop}

/-- Whether among some items comparisons with the bad ones fail, and all others are alike. -/
structure Fails (before : α → α → Except ε Bool) (e : ε) (bad : α → Prop) (xs : List α) : Prop where
  fails : ∀ a ∈ xs, ∀ b ∈ xs, bad a ∨ bad b → before a b = .error e
  alike : ∀ a ∈ xs, ∀ b ∈ xs, ¬bad a → ¬bad b → before a b = .ok false

theorem Fails.of_subset {xs ys : List α} (h : Fails before e bad xs) (sub : ys ⊆ xs) :
    Fails before e bad ys :=
  ⟨fun a ha b hb => h.fails a (sub ha) b (sub hb), fun a ha b hb => h.alike a (sub ha) b (sub hb)⟩

theorem risingRun_eq_error {last : α} {run xs : List α} (h : Fails before e bad (last :: xs))
    (good : ¬bad last) (some_bad : ∃ x ∈ xs, bad x) : risingRun before last run xs = .error e := by
  induction xs generalizing last run with
  | nil =>
    obtain ⟨x, hx, -⟩ := some_bad
    cases hx
  | cons x xs ih =>
    have first : last ∈ last :: x :: xs := List.mem_cons_self
    have second : x ∈ last :: x :: xs := List.mem_cons_of_mem last List.mem_cons_self
    by_cases hx : bad x
    · rw [risingRun, h.fails x second last first (.inl hx)]
      rfl
    · have later : ∃ y ∈ xs, bad y := by
        obtain ⟨y, hy, bad_y⟩ := some_bad
        rcases List.mem_cons.1 hy with rfl | hy
        · exact absurd bad_y hx
        · exact ⟨y, hy, bad_y⟩
      rw [risingRun, h.alike x second last first hx good]
      exact ih (h.of_subset (List.subset_cons_self last _)) hx later

theorem firstRun_eq_error {x y : α} {rest : List α} (h : Fails before e bad (x :: y :: rest))
    (some_bad : ∃ z ∈ x :: y :: rest, bad z) : firstRun before (x :: y :: rest) = .error e := by
  have first : x ∈ x :: y :: rest := List.mem_cons_self
  have second : y ∈ x :: y :: rest := List.mem_cons_of_mem x List.mem_cons_self
  by_cases pair : bad y ∨ bad x
  · rw [firstRun, h.fails y second x first pair]
    rfl
  · rw [not_or] at pair
    have later : ∃ z ∈ rest, bad z := by
      obtain ⟨z, hz, bad_z⟩ := some_bad
      rcases List.mem_cons.1 hz with rfl | hz
      · exact absurd bad_z pair.2
      · rcases List.mem_cons.1 hz with rfl | hz
        · exact absurd bad_z pair.1
        · exact ⟨z, hz, bad_z⟩
    rw [firstRun, h.alike y second x first pair.1 pair.2]
    exact risingRun_eq_error (h.of_subset (List.subset_cons_self x _)) pair.1 later

end Failing

end OrderRetrieval.Sorting

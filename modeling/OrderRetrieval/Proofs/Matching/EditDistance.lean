import Mathlib.Order.Bounds.Basic
import Mathlib.Order.MinMax
import OrderRetrieval.Matching.EditDistance

/-!
# The edit distance is the least number of edits

An edit inserts, deletes or substitutes one character at any place of a text.  The least number of
edits between two texts obeys a recurrence on their first characters (`distance_isLeast`), and the
rows hold its values for the texts read backwards, so that the last entry of the last row is that
least number (`editDistance_isLeast`).  So it is at most the length of the longer text, and zero for
equal texts only.
-/

namespace OrderRetrieval.Matching

variable {α : Type}

/-- The second text is the first after one insertion, deletion or substitution. -/
inductive Edit : List α → List α → Prop
  | insert (p q : List α) (d : α) : Edit (p ++ q) (p ++ d :: q)
  | delete (p q : List α) (c : α) : Edit (p ++ c :: q) (p ++ q)
  | substitute (p q : List α) (c d : α) : Edit (p ++ c :: q) (p ++ d :: q)

/-- The first text becomes the second in that many edits. -/
inductive Edits : Nat → List α → List α → Prop
  | refl (s : List α) : Edits 0 s s
  | step {n : Nat} {s t u : List α} (first : Edit s t) (rest : Edits n t u) : Edits (n + 1) s u

section Edits

variable {n : Nat} {s t : List α}

theorem Edit.cons (c : α) (h : Edit s t) : Edit (c :: s) (c :: t) := by
  cases h with
  | insert p q d => exact .insert (c :: p) q d
  | delete p q d => exact .delete (c :: p) q d
  | substitute p q d e => exact .substitute (c :: p) q d e

theorem Edits.cons (c : α) (h : Edits n s t) : Edits n (c :: s) (c :: t) := by
  induction h with
  | refl s => exact .refl (c :: s)
  | step first _ ih => exact .step (first.cons c) ih

theorem Edit.reverse (h : Edit s t) : Edit s.reverse t.reverse := by
  cases h with
  | insert p q d => simpa using Edit.insert q.reverse p.reverse d
  | delete p q c => simpa using Edit.delete q.reverse p.reverse c
  | substitute p q c d => simpa using Edit.substitute q.reverse p.reverse c d

theorem Edits.reverse (h : Edits n s t) : Edits n s.reverse t.reverse := by
  induction h with
  | refl s => exact .refl s.reverse
  | step first _ ih => exact .step first.reverse ih

/-- Texts read backwards are as far apart. -/
theorem edits_reverse_iff : Edits n s.reverse t.reverse ↔ Edits n s t :=
  ⟨fun h => by simpa using h.reverse, Edits.reverse⟩

theorem edits_nil_left (t : List α) : Edits t.length [] t := by
  induction t with
  | nil => exact .refl []
  | cons d t ih => exact .step (.insert [] [] d) (ih.cons d)

theorem edits_nil_right (s : List α) : Edits s.length s [] := by
  induction s with
  | nil => exact .refl []
  | cons c s ih => exact .step (.delete [] s c) ih

theorem Edits.eq_of_zero (h : Edits 0 s t) : s = t := by
  cases h
  rfl

end Edits

variable [DecidableEq α]

/-- The least number of edits, by the first characters of the two texts: the first is deleted, the
second is inserted, or the first becomes the second. -/
def distance : List α → List α → Nat
  | [], t => t.length
  | s, [] => s.length
  | c :: s, d :: t =>
    min (min (distance s (d :: t) + 1) (distance (c :: s) t + 1))
      (distance s t + if c = d then 0 else 1)
termination_by s t => s.length + t.length

section Recurrence

variable {s t u : List α} {c d : α}

@[simp] theorem distance_nil_left (t : List α) : distance [] t = t.length := by
  rw [distance]

@[simp] theorem distance_nil_right (s : List α) : distance s [] = s.length := by
  cases s <;> simp [distance]

theorem distance_cons_cons (c d : α) (s t : List α) :
    distance (c :: s) (d :: t) =
      min (min (distance s (d :: t) + 1) (distance (c :: s) t + 1))
        (distance s t + if c = d then 0 else 1) := by
  rw [distance]

theorem distance_self (s : List α) : distance s s = 0 := by
  induction s with
  | nil => exact distance_nil_left []
  | cons c s ih => rw [distance_cons_cons, if_pos rfl, ih, Nat.min_zero]

theorem distance_comm (s t : List α) : distance s t = distance t s := by
  induction s, t using distance.induct with
  | case1 t => simp
  | case2 s => simp
  | case3 c s d t deleted inserted kept =>
    rw [distance_cons_cons, distance_cons_cons, deleted, inserted, kept,
      min_comm (distance _ s + 1)]
    simp only [eq_comm]

theorem distance_cons_le (c : α) (s u : List α) : distance (c :: s) u ≤ distance s u + 1 := by
  cases u with
  | nil => simp
  | cons d u => rw [distance_cons_cons]; omega

theorem distance_le_distance_cons (d : α) (s u : List α) :
    distance s u ≤ distance (d :: s) u + 1 := by
  induction u with
  | nil => simp; omega
  | cons e u ih =>
    have inserted : distance s (e :: u) ≤ distance s u + 1 := by
      simpa only [distance_comm s] using distance_cons_le e u s
    rw [distance_cons_cons]
    omega

theorem distance_substitute_le (c d : α) (s u : List α) :
    distance (c :: s) u ≤ distance (d :: s) u + 1 := by
  induction u with
  | nil => simp
  | cons e u ih =>
    rw [distance_cons_cons, distance_cons_cons]
    split <;> split <;> omega

/-- Texts that are one edit apart stay so behind a common first character. -/
theorem distance_cons_le_cons (near : ∀ u, distance s u ≤ distance t u + 1) (c : α)
    (u : List α) : distance (c :: s) u ≤ distance (c :: t) u + 1 := by
  induction u with
  | nil => simpa using near []
  | cons e u ih =>
    have deleted := near (e :: u)
    have kept := near u
    rw [distance_cons_cons, distance_cons_cons]
    omega

theorem distance_append_le (near : ∀ u, distance s u ≤ distance t u + 1) (p : List α) :
    ∀ u, distance (p ++ s) u ≤ distance (p ++ t) u + 1 := by
  induction p with
  | nil => exact near
  | cons c p ih => exact distance_cons_le_cons ih c

/-- One edit changes no distance by more than one. -/
theorem distance_le_of_edit (h : Edit s t) (u : List α) : distance s u ≤ distance t u + 1 := by
  cases h with
  | insert p q d => exact distance_append_le (distance_le_distance_cons d q) p u
  | delete p q c => exact distance_append_le (distance_cons_le c q) p u
  | substitute p q c d => exact distance_append_le (distance_substitute_le c d q) p u

/-- No script is shorter. -/
theorem distance_le_of_edits {n : Nat} (h : Edits n s t) : distance s t ≤ n := by
  induction h with
  | refl s => exact (distance_self s).le
  | step first _ ih => exact (distance_le_of_edit first _).trans (Nat.succ_le_succ ih)

/-- Some script has that length: the least of the three numbers says how it begins. -/
theorem edits_distance (s t : List α) : Edits (distance s t) s t := by
  induction s, t using distance.induct with
  | case1 t => simpa using edits_nil_left t
  | case2 s => simpa using edits_nil_right s
  | case3 c s d t deleted inserted kept =>
    have delete : Edits (distance s (d :: t) + 1) (c :: s) (d :: t) :=
      .step (.delete [] s c) deleted
    have insert : Edits (distance (c :: s) t + 1) (c :: s) (d :: t) :=
      .step (.insert [] (c :: s) d) (inserted.cons d)
    have keep : Edits (distance s t + if c = d then 0 else 1) (c :: s) (d :: t) := by
      by_cases same : c = d
      · subst same
        simpa using kept.cons c
      · rw [if_neg same]
        exact .step (.substitute [] s c d) (kept.cons d)
    rw [distance_cons_cons]
    rcases min_choice (min (distance s (d :: t) + 1) (distance (c :: s) t + 1))
      (distance s t + if c = d then 0 else 1) with h | h
    · rcases min_choice (distance s (d :: t) + 1) (distance (c :: s) t + 1) with h' | h'
      · rwa [h, h']
      · rwa [h, h']
    · rwa [h]

theorem distance_le_max (s t : List α) : distance s t ≤ max s.length t.length := by
  induction s, t using distance.induct with
  | case1 t => simp
  | case2 s => simp
  | case3 c s d t _ _ kept =>
    rw [distance_cons_cons, List.length_cons, List.length_cons]
    split <;> omega

theorem distance_eq_zero_iff : distance s t = 0 ↔ s = t := by
  constructor
  · intro none
    have script := edits_distance s t
    rw [none] at script
    exact script.eq_of_zero
  · rintro rfl
    exact distance_self s

theorem distance_isLeast (s t : List α) : IsLeast {n | Edits n s t} (distance s t) :=
  ⟨edits_distance s t, fun _ => distance_le_of_edits⟩

end Recurrence

section Rows

/-- The distances of `p` from the texts that grow from `q` by one character at a time. -/
def entries (p q : List α) : List α → List Nat
  | [] => []
  | d :: ds => distance p (d :: q) :: entries p (d :: q) ds

theorem entries_nil_left (q ds : List α) :
    entries [] q ds = List.range' (q.length + 1) ds.length := by
  induction ds generalizing q with
  | nil => rfl
  | cons d ds ih => simp [entries, ih, List.range'_succ]

theorem rowTail_entries (c : α) (p q ds : List α) :
    rowTail c (distance (c :: p) q) (distance p q) ds (entries p q ds) =
      entries (c :: p) q ds := by
  induction ds generalizing q with
  | nil => rfl
  | cons d ds ih => rw [entries, rowTail, entries, ← distance_cons_cons, ih]

/-- The row for a prefix of the first text, given backwards. -/
def row (p t : List α) : List Nat := distance p [] :: entries p [] t

theorem row_nil_left (t : List α) : row [] t = List.range (t.length + 1) := by
  rw [row, entries_nil_left, distance_nil_left, List.range_eq_range', List.range'_succ]
  rfl

theorem nextRow_row (p t : List α) (c : α) : nextRow t (row p t) c = row (c :: p) t := by
  have first : distance p [] + 1 = distance (c :: p) [] := by simp
  rw [row, nextRow, first, rowTail_entries, row]

theorem foldl_nextRow (p s t : List α) :
    s.foldl (nextRow t) (row p t) = row (s.reverse ++ p) t := by
  induction s generalizing p with
  | nil => rfl
  | cons c s ih => rw [List.foldl_cons, nextRow_row, ih]; simp

theorem getLast?_entries (p q ds : List α) :
    (distance p q :: entries p q ds).getLast? = some (distance p (ds.reverse ++ q)) := by
  induction ds generalizing q with
  | nil => rfl
  | cons d ds ih => rw [entries, List.getLast?_cons_cons, ih]; simp

/-- The last entry of the last row is the distance of the texts read backwards. -/
theorem distanceByRows_eq (s t : List α) :
    distanceByRows s t = distance s.reverse t.reverse := by
  cases t with
  | nil => simp [distanceByRows]
  | cons d t =>
    rw [distanceByRows, if_neg (by simp), ← row_nil_left, foldl_nextRow, row, getLast?_entries]
    simp

/-- The texts may be swapped, since the distance is symmetric. -/
theorem editDistance_eq (s t : List α) : editDistance s t = distance s.reverse t.reverse := by
  rw [editDistance, distanceByRows_eq, distanceByRows_eq, distance_comm t.reverse, ite_self]

/-- No more edits are needed than the longer text has characters. -/
theorem editDistance_le_max (s t : List α) : editDistance s t ≤ max s.length t.length := by
  have bound := distance_le_max s.reverse t.reverse
  rwa [List.length_reverse, List.length_reverse, ← editDistance_eq] at bound

/-- No edit is needed between equal texts only. -/
theorem editDistance_eq_zero_iff {s t : List α} : editDistance s t = 0 ↔ s = t := by
  rw [editDistance_eq, distance_eq_zero_iff, List.reverse_inj]

end Rows

/-- The edit distance of two texts is the least number of edits that lead from one to the other. -/
theorem editDistance_isLeast (s t : List α) :
    IsLeast {n | Edits n s t} (editDistance s t) := by
  have backwards := distance_isLeast s.reverse t.reverse
  simpa only [editDistance_eq, edits_reverse_iff] using backwards

example : editDistance "kitten".toList "sitting".toList = 3 := by decide

end OrderRetrieval.Matching

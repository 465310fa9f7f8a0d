import Mathlib.Data.List.Perm.Subperm
import Mathlib.Data.List.Pairwise
import OrderRetrieval.Popularity.Shared
import OrderRetrieval.Proofs.Number.Counting
import OrderRetrieval.Proofs.Outcome

/-!
# Counting in the shared store

A sorted set whose scores were counted up from zero holds counts.  Counting a term once more keeps
it so (`SortedSet.Holds.increase`), a trim that leaves room for every member drops none
(`SharedStore.trim_of_room`), and the members are read back with their counts
(`SharedStore.topTerms_eq`).
-/

namespace OrderRetrieval

open Double (countUp counted)

namespace SortedSet

/-! ## The order of counts -/

/-- Whether the score of an entry was counted up. -/
def Counted (e : String × Float) : Prop := ∃ n, 0 < n ∧ e.2 = countUp n

section Order

variable {a b c : String × Float} {t u : String} {m n : Nat}

/-- Entries are ordered by their counts, and by their terms where these are the same. -/
theorem before_iff (hm : 0 < m) (hn : 0 < n) :
    before (t, countUp m) (u, countUp n) = true ↔
      counted m < counted n ∨ (counted m ≤ counted n ∧ t < u) := by
  have greater : Double.lt (countUp n) (countUp m) = false ↔ counted m ≤ counted n := by
    rw [← Bool.not_eq_true, Double.lt_countUp_iff hn hm]
    exact Nat.not_lt
  simp only [before, Bool.or_eq_true, Bool.and_eq_true, Bool.not_eq_true', decide_eq_true_eq,
    Double.lt_countUp_iff hm hn, greater]

theorem before_trans (ha : Counted a) (hb : Counted b) (hc : Counted c)
    (first : before a b = true) (second : before b c = true) : before a c = true := by
  obtain ⟨t, _⟩ := a
  obtain ⟨u, _⟩ := b
  obtain ⟨v, _⟩ := c
  obtain ⟨l, hl, rfl⟩ := ha
  obtain ⟨m, hm, rfl⟩ := hb
  obtain ⟨n, hn, rfl⟩ := hc
  rw [before_iff hl hm] at first
  rw [before_iff hm hn] at second
  rw [before_iff hl hn]
  rcases first with less | ⟨le, less⟩
  · exact .inl (by omega)
  · rcases second with less' | ⟨le', less'⟩
    · exact .inl (by omega)
    · exact .inr ⟨Nat.le_trans le le', String.lt_trans less less'⟩

/-- Of entries for different terms one stands before the other. -/
theorem before_of_not_before (ha : Counted a) (hb : Counted b) (different : a.1 ≠ b.1)
    (h : ¬before a b = true) : before b a = true := by
  obtain ⟨t, _⟩ := a
  obtain ⟨u, _⟩ := b
  obtain ⟨m, hm, rfl⟩ := ha
  obtain ⟨n, hn, rfl⟩ := hb
  rw [before_iff hm hn] at h
  rw [before_iff hn hm]
  rcases Nat.lt_or_ge (counted n) (counted m) with less | ge
  · exact .inl less
  · have same : counted n ≤ counted m := Nat.le_of_not_lt fun less => h (.inl less)
    have below : u ≤ t := String.not_lt.1 fun less => h (.inr ⟨ge, less⟩)
    refine .inr ⟨same, Decidable.byContradiction fun notLess => ?_⟩
    exact different (String.le_antisymm (String.not_lt.1 notLess) below)

end Order

/-! ## Putting an entry in its place -/

section Insert

variable {e x : String × Float} {s : SortedSet}

theorem insert_perm (e : String × Float) (s : SortedSet) : (insert e s).Perm (e :: s) := by
  induction s with
  | nil => exact .refl _
  | cons x s ih =>
    unfold insert
    split
    · exact .refl _
    · exact (ih.cons x).trans (.swap e x s)

theorem mem_insert : x ∈ insert e s ↔ x = e ∨ x ∈ s := by
  rw [(insert_perm e s).mem_iff, List.mem_cons]

theorem ordered_insert (he : Counted e) (hs : ∀ x ∈ s, Counted x) (fresh : ∀ x ∈ s, e.1 ≠ x.1)
    (ordered : s.Pairwise fun a b => before a b = true) :
    (insert e s).Pairwise fun a b => before a b = true := by
  induction s with
  | nil => exact List.pairwise_singleton _ e
  | cons x s ih =>
    obtain ⟨first, rest⟩ := List.pairwise_cons.1 ordered
    obtain ⟨hx, hs⟩ := List.forall_mem_cons.1 hs
    obtain ⟨different, fresh⟩ := List.forall_mem_cons.1 fresh
    unfold insert
    split
    · next before_x =>
      refine List.pairwise_cons.2 ⟨List.forall_mem_cons.2 ⟨before_x, fun y hy => ?_⟩, ordered⟩
      exact before_trans he hx (hs y hy) before_x (first y hy)
    · next not_before_x =>
      refine List.pairwise_cons.2 ⟨fun y hy => ?_, ih hs fresh rest⟩
      rcases mem_insert.1 hy with rfl | hy
      · exact before_of_not_before he hx different not_before_x
      · exact first y hy

end Insert

/-! ## Sets that hold counts -/

/-- Whether a sorted set has the counted terms as its members, with what doubles make of their
counts as scores. -/
structure Holds (s : SortedSet) (count : String → Nat) : Prop where
  nodup : (s.map Prod.fst).Nodup
  mem_iff : ∀ t x, (t, x) ∈ s ↔ 0 < count t ∧ x = countUp (count t)
  ordered : s.Pairwise fun a b => before a b = true

/-- An empty set holds no counts. -/
theorem holds_nil : Holds [] fun _ => 0 where
  nodup := List.nodup_nil
  mem_iff _ _ := by simp
  ordered := .nil

namespace Holds

variable {s : SortedSet} {count : String → Nat} (h : s.Holds count)

include h

theorem counted_of_mem {e : String × Float} (he : e ∈ s) : Counted e :=
  have ⟨pos, score⟩ := (h.mem_iff e.1 e.2).1 he
  ⟨count e.1, pos, score⟩

/-- The score of a term is its count; one that is missing counts from zero. -/
theorem score_eq (t : String) : (s.score? t).getD 0 = countUp (count t) := by
  cases found : s.score? t with
  | some x =>
    obtain ⟨l₁, l₂, rfl, -⟩ := List.lookup_eq_some_iff.1 found
    exact ((h.mem_iff t x).1 List.mem_append_cons_self).2
  | none =>
    rcases Nat.eq_zero_or_pos (count t) with zero | pos
    · rw [zero]
      rfl
    · have mem : (t, countUp (count t)) ∈ s := (h.mem_iff t _).2 ⟨pos, rfl⟩
      have other := List.lookup_eq_none_iff.1 found _ mem
      simp at other

theorem mem_erase (t u : String) (x : Float) :
    (u, x) ∈ s.erase t ↔ u ≠ t ∧ 0 < count u ∧ x = countUp (count u) := by
  simp only [SortedSet.erase, List.mem_filter, bne_iff_ne, h.mem_iff]
  exact and_comm

/-- A set in which a term is counted once more holds the new counts. -/
theorem increase (t : String) :
    (s.increase t 1).Holds fun u => count u + if u = t then 1 else 0 := by
  have score : (s.score? t).getD 0 + 1 = countUp (count t + 1) := by
    rw [h.score_eq]
    rfl
  have others : (s.erase t).Sublist s := List.filter_sublist
  have fresh : ∀ x ∈ s.erase t, t ≠ x.1 := fun x hx => ((h.mem_erase t x.1 x.2).1 hx).1.symm
  unfold SortedSet.increase
  rw [score]
  constructor
  · refine ((insert_perm _ _).map Prod.fst).nodup_iff.2 (List.nodup_cons.2 ⟨?_, ?_⟩)
    · intro mem
      obtain ⟨x, hx, same⟩ := List.mem_map.1 mem
      exact fresh x hx same.symm
    · exact h.nodup.sublist (others.map Prod.fst)
  · intro u x
    rw [mem_insert, h.mem_erase]
    by_cases same : u = t
    · simp [same]
    · simp [same]
  · refine ordered_insert ⟨count t + 1, Nat.succ_pos _, rfl⟩ ?_ fresh (h.ordered.sublist others)
    exact fun x hx => h.counted_of_mem (others.mem hx)

/-- The members are among the terms that are counted. -/
theorem length_le {terms : List String} (among : ∀ t, 0 < count t → t ∈ terms) :
    s.length ≤ terms.length := by
  have sub : s.map Prod.fst ⊆ terms := by
    intro t ht
    obtain ⟨e, he, rfl⟩ := List.mem_map.1 ht
    exact among e.1 ((h.mem_iff e.1 e.2).1 he).1
  have le := (List.subperm_of_subset h.nodup sub).length_le
  rwa [List.length_map] at le

end Holds

/-! ## Ranges of ranks -/

/-- A range from the lowest rank that has room for every member above it is empty. -/
theorem withoutRange_of_room {s : SortedSet} {room : Int} (le : s.length ≤ room) :
    s.withoutRange 0 (-(room + 1)) = s := by
  have none : window s.length 0 (-(room + 1)) = (0, 0) := by
    unfold window
    rw [if_neg (by omega), if_pos (by omega)]
    refine Prod.ext rfl ?_
    simp only
    omega
  simp only [withoutRange, none, List.take_zero, List.nil_append, Nat.add_zero, List.drop_zero]

/-- A range that has room for every member has them all. -/
theorem range_of_room {s : SortedSet} {room : Int} (le : s.length ≤ room) :
    s.range 0 (room - 1) = s := by
  unfold range window
  rw [if_neg (by omega)]
  simp only [Int.toNat_zero, List.drop_zero]
  refine List.take_of_length_le ?_
  split <;> omega

end SortedSet

namespace SharedStore

variable {s : SharedStore} {count : String → Nat}

/-! ## What commands do -/

/-- Whether stores differ in nothing but their members. -/
def Kin (s t : SharedStore) : Prop := t = { s with members := t.members }

theorem Kin.trans {s t u : SharedStore} (first : s.Kin t) (second : t.Kin u) : s.Kin u := by
  unfold Kin at *
  rw [second, first]

theorem kin_addTerm (s : SharedStore) (t : String) (amount : Datum) :
    s.Kin (s.addTerm t amount).2.1 := by
  unfold addTerm
  split <;> rfl

theorem kin_addTerms (s : SharedStore) (ts : List String) : s.Kin (s.addTerms ts).1 := by
  induction ts generalizing s with
  | nil => rfl
  | cons t ts ih => exact (s.kin_addTerm t (.int 1)).trans (ih _)

theorem kin_trim (s : SharedStore) (size : Quantity) : s.Kin (s.trim size).2.1 := by
  simp only [trim]
  split <;> rfl

/-- A term is counted in a store that does what it is asked to do. -/
theorem addTerm_one (works : s.fault = fun _ => none) (t : String) :
    (s.addTerm t (.int 1)).2.1 = { s with members := s.members.increase t 1 } := by
  have one : (Datum.int 1).toDouble = .ok 1 := rfl
  simp only [addTerm, reach, works, one]
  rfl

/-- Trimming drops nothing where there is room for every member. -/
theorem trim_of_room {size : Quantity} (room : size.lt (.whole s.members.length) = false) :
    (s.trim size).2.1 = s := by
  unfold trim reach
  cases s.fault .trim with
  | some reason => rfl
  | none =>
    cases size with
    | double x => rfl
    | whole n =>
      have le : (s.members.length : Int) ≤ n := by simpa [Quantity.lt] using room
      simp only [Quantity.toCount, bind, Except.bind, Except.mapError,
        SortedSet.withoutRange_of_room le]

/-! ## Reading -/

/-- A member with its score as it is read. -/
def reading (e : String × Float) : String × Int := (e.1, (Double.truncate? e.2).getD 0)

/-- Whether a store can be read, and read as a whole unless a request says otherwise: it does not
fail, has its members in their order, no more of them than are scanned, and finite scores. -/
structure Readable (s : SharedStore) : Prop where
  works : s.fault .read = none
  scanned : s.members.length ≤ scanSize
  ordered : s.members.Pairwise fun a b => SortedSet.before a b = true
  finite : ∀ e ∈ s.members, ∃ n, Double.truncate? e.2 = some n

theorem reading_counted {t : String} {n : Nat} (pos : 0 < n) :
    reading (t, countUp n) = (t, (counted n : Int)) := by
  rw [reading, Double.truncate?_counted pos]
  rfl

/-- A store that holds counts can be read. -/
theorem Readable.of_holds (holds : s.members.Holds count) (works : s.fault .read = none)
    (scanned : s.members.length ≤ scanSize) : s.Readable where
  works := works
  scanned := scanned
  ordered := holds.ordered
  finite e he := by
    obtain ⟨pos, score⟩ := (holds.mem_iff e.1 e.2).1 he
    rw [score]
    exact ⟨_, Double.truncate?_counted pos⟩

theorem Readable.topTerms_whole (h : s.Readable) (limit : Int) :
    s.topTerms (some (.whole limit)) =
      ((SortedSet.range s.members.reverse 0 (limit - 1)).map reading, []) := by
  simp only [topTerms, reach, h.works, Option.getD_some, Quantity.toCount, bind, Except.bind]
  rw [Except.mapM_eq_ok (g := reading)]
  · rfl
  · intro e he
    have mem : e ∈ s.members :=
      List.mem_reverse.1 (List.mem_of_mem_drop (List.mem_of_mem_take he))
    obtain ⟨n, hn⟩ := h.finite e mem
    simp only [Double.toWhole, reading, hn, decode_handBack, Option.getD_some]

/-- All members are read back, from the highest to the lowest. -/
theorem Readable.topTerms_none (h : s.Readable) :
    s.topTerms none = (s.members.reverse.map reading, []) := by
  have all : SortedSet.range s.members.reverse 0 (scanSize - 1) = s.members.reverse :=
    SortedSet.range_of_room (by rw [List.length_reverse]; exact h.scanned)
  rw [← all]
  exact h.topTerms_whole scanSize

/-- The members are read back with their counts, from the highest to the lowest. -/
theorem topTerms_eq (works : s.fault = fun _ => none) (holds : s.members.Holds count)
    (le : s.members.length ≤ scanSize) :
    s.topTerms none = (s.members.reverse.map fun e => (e.1, (counted (count e.1) : Int)), []) := by
  have readable : s.Readable := .of_holds holds (by rw [works]) le
  rw [readable.topTerms_none, List.map_congr_left]
  rintro ⟨t, x⟩ he
  obtain ⟨pos, rfl⟩ := (holds.mem_iff t x).1 (List.mem_reverse.1 he)
  exact reading_counted pos

end SharedStore

end OrderRetrieval

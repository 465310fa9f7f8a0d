import Mathlib.Order.Bounds.Basic
import OrderRetrieval.Proofs.Popularity.Bounded

/-!
# What a full history learns

A tally that has no room for another term admits a new one only if a single query has it more often
than the least count it holds (`Tally.FullWithout.mem_kept_iff`): the trim after each query forgets
whatever was counted of the terms that it drops.  So a new term may come in any number of queries,
one after the other, and still not be learned (`History.learns_iff`).
-/

namespace OrderRetrieval

namespace Tally

variable {tally kept : Tally} {t : String} {size m k : Nat}

/-! ## Counting a single term -/

theorem add_append_of_notMem (new : t ∉ tally.map Prod.fst) (rest : Tally) :
    add t (tally ++ rest) = tally ++ add t rest := by
  induction tally with
  | nil => rfl
  | cons e tally ih =>
    obtain ⟨other, new⟩ := not_or.1 (List.mem_cons.not.1 new)
    rw [List.cons_append, add, if_neg (Ne.symm other), ih new]
    rfl

/-- A new term comes last. -/
theorem addAll_replicate (new : t ∉ tally.map Prod.fst) (k : Nat) :
    tally.addAll (List.replicate (k + 1) t) = tally ++ [(t, k + 1)] := by
  induction k with
  | zero =>
    have first := add_append_of_notMem new []
    rwa [List.append_nil] at first
  | succ k ih =>
    rw [List.replicate_succ', addAll, List.foldl_append]
    change add t (tally.addAll (List.replicate (k + 1) t)) = _
    rw [ih, add_append_of_notMem new, add, if_pos rfl]

/-- A term that is there leaves the terms as they are. -/
theorem map_fst_addAll_replicate (held : t ∈ tally.map Prod.fst) (k : Nat) :
    (tally.addAll (List.replicate k t)).map Prod.fst = tally.map Prod.fst := by
  induction k generalizing tally with
  | zero => rfl
  | succ k ih =>
    have same : (tally.add t).map Prod.fst = tally.map Prod.fst := by
      rw [map_fst_add, if_pos held]
    exact (ih (same ▸ held)).trans same

/-! ## A full tally -/

/-- Whether a tally of so many terms does not have a certain one, and what the least of its counts
is. -/
structure FullWithout (tally : Tally) (size : Nat) (t : String) (m : Nat) : Prop where
  full : tally.length = size
  new : t ∉ tally.map Prod.fst
  least : IsLeast {n | n ∈ tally.map Prod.snd} m

theorem FullWithout.of_perm (h : tally.FullWithout size t m) {other : Tally}
    (perm : other.Perm tally) : other.FullWithout size t m where
  full := perm.length_eq.trans h.full
  new mem := h.new ((perm.map Prod.fst).mem_iff.1 mem)
  least := by
    simp only [(perm.map Prod.snd).mem_iff]
    exact h.least

section Full

variable (h : tally.FullWithout size t m)
variable (keeps : KeepsHighest size (Outranks (tally ++ [(t, k)])) (tally ++ [(t, k)]) kept)

include h keeps

/-- A full tally that does not admit a new term stays as it is. -/
theorem FullWithout.perm_of_notMem_kept (gone : t ∉ kept.map Prod.fst) : kept.Perm tally := by
  have sub : kept ⊆ tally := by
    intro e he
    rcases List.mem_append.1 (keeps.subperm.subset he) with there | last
    · exact there
    · have same : e = (t, k) := List.mem_singleton.1 last
      exact absurd (List.mem_map.2 ⟨e, he, by rw [same]⟩) gone
  have full := h.full
  have length := keeps.length_eq
  rw [List.length_append, List.length_singleton] at length
  exact (List.subperm_of_subset (keeps.nodup_after.of_map _) sub).perm_of_length_le (by omega)

/-- A term that is admitted takes the place of another one. -/
theorem FullWithout.exists_dropped (stays : t ∈ kept.map Prod.fst) :
    (t, k) ∈ kept ∧ ∃ e ∈ tally, e ∉ kept := by
  have entry : (t, k) ∈ kept := by
    obtain ⟨e, he, rfl⟩ := List.mem_map.1 stays
    rcases List.mem_append.1 (keeps.subperm.subset he) with there | last
    · exact absurd (List.mem_map_of_mem there) h.new
    · rwa [List.mem_singleton.1 last] at he
  refine ⟨entry, ?_⟩
  by_contra! all
  have sub : tally ++ [(t, k)] ⊆ kept := by
    intro e he
    rcases List.mem_append.1 he with there | last
    · exact all e there
    · rwa [List.mem_singleton.1 last]
  have more := (List.subperm_of_subset (keeps.nodup.of_map _) sub).length_le
  rw [List.length_append, List.length_singleton, h.full] at more
  exact absurd keeps.length_le (by omega)

/-- A full tally admits a new term if it comes more often than the least count. -/
theorem FullWithout.mem_kept_iff : t ∈ kept.map Prod.fst ↔ m < k := by
  obtain ⟨held, least⟩ := h.least
  constructor
  · intro stays
    obtain ⟨entry, e, he, gone⟩ := h.exists_dropped keeps stays
    have le : m ≤ e.2 := least (List.mem_map_of_mem he)
    rcases keeps.outranks e (List.mem_append_left _ he) gone _ entry with less | ⟨-, first⟩
    · exact Nat.lt_of_le_of_lt le less
    · -- The new term stands last, so it loses against equal counts.
      have last : (t, k) ∉ tally := fun mem => h.new (List.mem_map_of_mem mem)
      rw [List.idxOf_append_of_mem he, List.idxOf_append_of_notMem last] at first
      have place := List.idxOf_lt_length_of_mem he
      omega
  · intro more
    by_contra gone
    have perm := h.perm_of_notMem_kept keeps gone
    obtain ⟨e, he, rfl⟩ := List.mem_map.1 held
    have dropped : (t, k) ∉ kept := fun mem => gone (List.mem_map_of_mem mem)
    have last : (t, k) ∈ tally ++ [(t, k)] := List.mem_append_right _ (List.mem_singleton_self _)
    rcases keeps.outranks _ last dropped e (perm.mem_iff.2 he) with less | ⟨same, -⟩
    · exact Nat.lt_asymm less more
    · exact Nat.ne_of_lt more same

end Full

end Tally

namespace History

variable {settings : Settings} {size : Nat} (sized : settings.historySize = .whole size)
variable {h : History} {recorded : List String} (counts : h.Counts recorded)
variable {text : Option String} {texts : List (Option String)} {t : String} {m : Nat}

theorem terms_eq_replicate (only : ∀ u ∈ terms settings text, u = t) :
    terms settings text = List.replicate ((terms settings text).count t) t := by
  have all : (terms settings text).count t = (terms settings text).length :=
    List.count_eq_length.2 fun u hu => (only u hu).symm
  rw [all]
  exact List.eq_replicate_of_mem only

include sized counts

/-! ## A single query -/

/-- After a query the tally keeps the highest of what has been counted. -/
theorem Counts.record_keeps (room : h.tally.length ≤ size) (text : Option String) :
    KeepsHighest size (Tally.Outranks (h.tally.addAll (terms settings text)))
      (h.tally.addAll (terms settings text)) (h.record settings text).state.tally := by
  by_cases trims : (Event.record text).Trims settings
  · exact counts.keeps_tally sized trims
  · obtain ⟨none, same⟩ := Event.apply_of_idle trims h
    simp only [Event.terms] at none
    simp only [Event.apply] at same
    rw [none, same]
    exact .of_room counts.own.nodup room

/-- Recording nothing but a term that the tally holds drops no term. -/
theorem Counts.record_held (room : h.tally.length ≤ size) (held : t ∈ h.tally.map Prod.fst)
    (only : ∀ u ∈ terms settings text, u = t) :
    ((h.record settings text).state.tally.map Prod.fst).Perm (h.tally.map Prod.fst) := by
  have keeps := counts.record_keeps sized room text
  rw [terms_eq_replicate only] at keeps
  have same := Tally.map_fst_addAll_replicate held ((terms settings text).count t)
  have length := congrArg List.length same
  rw [List.length_map, List.length_map] at length
  rw [← same]
  exact (keeps.perm (length.trans_le room)).map Prod.fst

/-- Recording nothing but a new term admits it to a full tally if the query has it more often than
the least count, and otherwise leaves the tally as it is. -/
theorem Counts.record_new (full : h.tally.FullWithout size t m)
    (only : ∀ u ∈ terms settings text, u = t) :
    if m < (terms settings text).count t then
      t ∈ (h.record settings text).state.tally.map Prod.fst
    else (h.record settings text).state.tally.Perm h.tally := by
  have keeps := counts.record_keeps sized (Nat.le_of_eq full.full) text
  rw [terms_eq_replicate only] at keeps
  cases count : (terms settings text).count t with
  | zero =>
    rw [count] at keeps
    exact keeps.perm (Nat.le_of_eq full.full)
  | succ k =>
    rw [count, Tally.addAll_replicate full.new] at keeps
    split
    · next more => exact (full.mem_kept_iff keeps).2 more
    · next rare => exact full.perm_of_notMem_kept keeps ((full.mem_kept_iff keeps).not.2 rare)

/-! ## One query after the other -/

/-- Recording nothing but a term that the tally holds keeps it there. -/
theorem Counts.after_held (room : h.tally.length ≤ size) (held : t ∈ h.tally.map Prod.fst)
    (only : ∀ text ∈ texts, ∀ u ∈ terms settings text, u = t) :
    t ∈ (after settings h (texts.map .record)).tally.map Prod.fst := by
  induction texts generalizing h recorded with
  | nil => exact held
  | cons text texts ih =>
    obtain ⟨first, rest⟩ := List.forall_mem_cons.1 only
    have perm := counts.record_held sized room held first
    have length := perm.length_eq
    rw [List.length_map, List.length_map] at length
    exact ih (counts.record text) (length.trans_le room) (perm.mem_iff.2 held) rest

/-- A full tally admits a new term as soon as a query has it more often than the least count. -/
theorem Counts.after_admits (full : h.tally.FullWithout size t m)
    (only : ∀ text ∈ texts, ∀ u ∈ terms settings text, u = t)
    (more : ∃ text ∈ texts, m < (terms settings text).count t) :
    t ∈ (after settings h (texts.map .record)).tally.map Prod.fst := by
  induction texts generalizing h recorded with
  | nil => simp at more
  | cons text texts ih =>
    obtain ⟨first, rest⟩ := List.forall_mem_cons.1 only
    have new := counts.record_new sized full first
    have next : (h.record settings text).state.Counts _ := counts.record text
    by_cases now : m < (terms settings text).count t
    · rw [if_pos now] at new
      have room := (counts.record_keeps sized (Nat.le_of_eq full.full) text).length_le
      exact next.after_held sized room new rest
    · rw [if_neg now] at new
      obtain ⟨later, mem, more⟩ := more
      rcases List.mem_cons.1 mem with rfl | mem
      · exact absurd more now
      · exact ih next (full.of_perm new) rest ⟨later, mem, more⟩

/-- A full tally stays as it is as long as no query has a new term more often than the least
count. -/
theorem Counts.after_frozen (full : h.tally.FullWithout size t m)
    (only : ∀ text ∈ texts, ∀ u ∈ terms settings text, u = t)
    (rare : ∀ text ∈ texts, ¬m < (terms settings text).count t) :
    (after settings h (texts.map .record)).tally.Perm h.tally := by
  induction texts generalizing h recorded with
  | nil => exact .refl _
  | cons text texts ih =>
    obtain ⟨first, rest⟩ := List.forall_mem_cons.1 only
    obtain ⟨now, later⟩ := List.forall_mem_cons.1 rare
    have new := counts.record_new sized full first
    rw [if_neg now] at new
    exact (ih (counts.record text) (full.of_perm new) rest later).trans new

omit counts in
/-- Whatever happened before, and in however many queries a new term is recorded, one after the
other: a full tally learns it exactly if a single query has it more often than the least count,
which is at least one, and stays as it is if none has. -/
theorem learns_iff (shared : Option Bool) (events : List Event) :
    let h := after settings (start (shared.map .empty)) events
    h.tally.FullWithout size t m →
    (∀ text ∈ texts, ∀ u ∈ terms settings text, u = t) →
      0 < m ∧
      (t ∈ (after settings h (texts.map .record)).tally.map Prod.fst ↔
        ∃ text ∈ texts, m < (terms settings text).count t) ∧
      ((∀ text ∈ texts, ¬m < (terms settings text).count t) →
        (after settings h (texts.map .record)).tally.Perm h.tally) := by
  intro h full only
  have counts : h.Counts (History.recorded settings events) := counts_after shared events
  refine ⟨?_, ⟨fun learned => ?_, counts.after_admits sized full only⟩,
    counts.after_frozen sized full only⟩
  · obtain ⟨e, he, rfl⟩ := List.mem_map.1 full.least.1
    exact counts.own.pos e he
  · by_contra! rare
    have perm := counts.after_frozen sized full only fun text mem => Nat.not_lt.2 (rare text mem)
    exact full.new ((perm.map Prod.fst).mem_iff.1 learned)

/-- Settings that leave room for a single term. -/
def narrow : Settings := { Settings.default with historySize := .whole 1 }

omit sized counts in
theorem fullWithout_alpha (n : Nat) : Tally.FullWithout [("alpha", n)] 1 "bravo" n where
  full := rfl
  new := by simp
  least := by simp [isLeast_singleton]

omit sized counts in
/-- Three queries for "bravo" do not outweigh two occurrences of "alpha", but a single one that has
it three times does. -/
theorem learns_iff_bravo :
    let h := after narrow (start none) [.record (some "alpha alpha")]
    narrow.historySize = .whole (1 : Nat) ∧ h.tally.FullWithout 1 "bravo" 2 ∧
      "bravo" ∉ (after narrow h ((List.replicate 3 (some "bravo")).map .record)).tally.map
        Prod.fst ∧
      "bravo" ∈ (after narrow h ([some "bravo bravo bravo"].map .record)).tally.map Prod.fst := by
  intro h
  have full : h.tally.FullWithout 1 "bravo" 2 := fullWithout_alpha 2
  refine ⟨rfl, full, fun learned => ?_, ?_⟩
  · have once : ∀ text ∈ List.replicate 3 (some "bravo"), ∀ u ∈ terms narrow text, u = "bravo" := by
      decide
    exact absurd ((learns_iff rfl none _ full once).2.1.1 learned) (by decide)
  · have thrice : ∀ text ∈ [some "bravo bravo bravo"], ∀ u ∈ terms narrow text, u = "bravo" := by
      decide
    exact (learns_iff rfl none _ full thrice).2.1.2 (by decide)

omit sized counts in
/-- A term that has been counted once is not displaced by another one that is recorded twice. -/
theorem not_learns_bravo :
    let h := after narrow (start none) [.record (some "alpha")]
    h.tally = [("alpha", 1)] ∧ terms narrow (some "bravo") = ["bravo"] ∧
      (after narrow h [.record (some "bravo"), .record (some "bravo")]).tally =
        [("alpha", 1)] := by
  intro h
  have counts : h.Counts _ := counts_after none [.record (some "alpha")]
  have only : ∀ text ∈ [some "bravo", some "bravo"], ∀ u ∈ terms narrow text, u = "bravo" := by
    decide
  have frozen := counts.after_frozen rfl (fullWithout_alpha 1) only (by decide)
  exact ⟨by decide, by decide, List.perm_singleton.1 frozen⟩

end History

end OrderRetrieval

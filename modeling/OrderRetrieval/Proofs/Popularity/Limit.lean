import OrderRetrieval.Proofs.Number.Truncation
import OrderRetrieval.Proofs.Popularity.Bounded

/-!
# What a limit leaves of the popular terms

A history lists what it holds by falling counts, and with a limit the first so many of these.  The
store is asked for the ranks from the highest to the one before the limit, and before the limit zero
stands -1, which is the lowest rank: with that limit it hands back every member
(`SortedSet.range_eq`, `History.popular_limit`).
-/

namespace OrderRetrieval

/-- The ranks that a limit is taken for: all of them for the limit zero. -/
theorem SortedSet.range_eq (s : SortedSet) (limit : Nat) :
    s.range 0 (limit - 1) = if limit = 0 then s else s.take limit := by
  unfold range window
  simp only [Int.lt_irrefl, if_false, Int.toNat_zero, List.drop_zero]
  rcases Nat.eq_zero_or_pos limit with rfl | pos
  · exact List.take_of_length_le (by simp)
  · rw [if_neg (by omega), if_neg (by omega)]
    congr 1
    omega

namespace SharedStore

variable {s : SharedStore}

/-- Of two members the one that stands before the other has no greater score, also as it is read. -/
theorem reading_le {a b : String × Float} {m n : Int} (ha : Double.truncate? a.2 = some m)
    (hb : Double.truncate? b.2 = some n) (first : SortedSet.before a b = true) :
    (reading a).2 ≤ (reading b).2 := by
  obtain ⟨s, k, hi, -⟩ := Double.truncate?_eq ha
  obtain ⟨t, l, hj, -⟩ := Double.truncate?_eq hb
  have le : Double.signed s k ≤ Double.signed t l := by
    by_contra greater
    have greater : Double.lt b.2 a.2 = true := Double.lt_iff.2 ⟨_, _, hj, hi, by omega⟩
    simp only [SortedSet.before, greater, Bool.not_true, Bool.false_and, Bool.or_false] at first
    obtain ⟨i, j, hi', hj', less⟩ := Double.lt_iff.1 first
    rw [hi, Option.some.injEq] at hi'
    rw [hj, Option.some.injEq] at hj'
    omega
  simp only [reading, ha, hb, Option.getD_some]
  exact Double.truncate?_mono hi hj le ha hb

namespace Readable

variable (h : s.Readable)

include h

theorem pairwise_reading :
    (s.members.reverse.map reading).Pairwise fun a b => b.2 ≤ a.2 := by
  refine List.pairwise_map.2 (List.pairwise_reverse.2 (h.ordered.imp_of_mem ?_))
  intro a b ha hb first
  obtain ⟨m, hm⟩ := h.finite a ha
  obtain ⟨n, hn⟩ := h.finite b hb
  exact reading_le hm hn first

theorem topTerms_limit (limit : Nat) : s.topTerms (some (.whole limit)) =
    (if limit = 0 then s.members.reverse.map reading
      else (s.members.reverse.map reading).take limit, []) := by
  rw [h.topTerms_whole limit, SortedSet.range_eq, apply_ite (List.map reading), List.map_take]

end Readable

end SharedStore

namespace History

variable {h : History}

/-- What a history holds as it is read: the members of its store, or else the terms of its tally. -/
def held (h : History) : List (String × Int) :=
  match h.shared with
  | some s => s.members.map SharedStore.reading
  | none => h.tally.map fun (term, n) => (term, (n : Int))

/-- Whether a list has everything that a history holds, the highest counts first. -/
structure Lists (h : History) (listed : List (String × Int)) : Prop where
  perm : listed.Perm h.held
  falling : listed.Pairwise fun a b => b.2 ≤ a.2

theorem lists_own (tally : Tally) :
    Lists ⟨tally, none⟩ (tally.ranked.map fun (term, n) => (term, (n : Int))) where
  perm := (List.mergeSort_perm _ _).map _
  falling := by
    have sorted : tally.ranked.Pairwise fun a b => decide (b.2 ≤ a.2) = true :=
      List.pairwise_mergeSort (by simp only [decide_eq_true_eq]; omega)
        (by simp only [Bool.or_eq_true, decide_eq_true_eq]; omega) tally
    refine List.pairwise_map.2 (sorted.imp fun le => ?_)
    exact Int.ofNat_le.2 (of_decide_eq_true le)

theorem lists_shared (tally : Tally) {s : SharedStore} (readable : s.Readable) :
    Lists ⟨tally, some s⟩ (s.members.reverse.map SharedStore.reading) where
  perm := (List.reverse_perm _).map _
  falling := readable.pairwise_reading

/-- A history lists all that it holds. -/
theorem exists_lists (readable : ∀ s ∈ h.shared, s.Readable) :
    ∃ listed, h.popular none = (.ok listed, []) ∧ h.Lists listed := by
  obtain ⟨tally, shared⟩ := h
  cases shared with
  | none => exact ⟨_, rfl, lists_own tally⟩
  | some s =>
    have readable : s.Readable := readable s rfl
    refine ⟨_, ?_, lists_shared tally readable⟩
    simp only [popular, readable.topTerms_none]

/-- What a history has counted can be read back, unless its store fails or has too many members. -/
theorem Counts.readable {recorded : List String} (counts : h.Counts recorded)
    (works : ∀ s ∈ h.shared, s.fault .read = none)
    (scanned : ∀ s ∈ h.shared, s.members.length ≤ SharedStore.scanSize) :
    ∀ s ∈ h.shared, s.Readable := by
  intro s hs
  obtain ⟨count, holds, -⟩ := counts.shared s hs
  exact .of_holds holds (works s hs) (scanned s hs)

/-- Whatever a history holds, a limit leaves the first so many of all that is listed without one.
Only a store takes the limit zero for no limit at all. -/
theorem popular_limit (readable : ∀ s ∈ h.shared, s.Readable) (limit : Nat) :
    ∃ listed, h.popular none = (.ok listed, []) ∧ h.Lists listed ∧
      h.popular (some (.whole limit)) =
        (.ok (if h.isShared ∧ limit = 0 then listed else listed.take limit), []) := by
  obtain ⟨listed, all, lists⟩ := exists_lists readable
  refine ⟨listed, all, lists, ?_⟩
  obtain ⟨tally, shared⟩ := h
  cases shared with
  | none =>
    cases all
    simp only [popular, Tally.mostCommon, isShared, Except.map, Int.toNat_natCast, List.map_take,
      Option.isSome_none, Bool.false_eq_true, false_and, if_false]
  | some s =>
    have readable : s.Readable := readable s rfl
    simp only [popular, readable.topTerms_none] at all
    cases all
    simp only [popular, readable.topTerms_limit, isShared, Option.isSome_some, true_and]

/-- A shared history in which one term has been counted. -/
def sharedAlpha : History :=
  after Settings.default (start (some (.empty true))) [.record (some "alpha")]

theorem readable_sharedAlpha : ∀ s ∈ sharedAlpha.shared, s.Readable := by
  have counts := @counts_after Settings.default (some true) [.record (some "alpha")]
  refine counts.readable ?_ ?_
  · rintro s ⟨⟩
    rfl
  · rintro s ⟨⟩
    decide

theorem popular_sharedAlpha : sharedAlpha.popular none = (.ok [("alpha", 1)], []) := rfl

/-- With a limit above zero the term that was counted is listed. -/
theorem popular_limit_alpha :
    (∀ s ∈ sharedAlpha.shared, s.Readable) ∧
      sharedAlpha.popular (some (.whole (1 : Nat))) = (.ok [("alpha", 1)], []) := by
  obtain ⟨listed, all, -, first⟩ := popular_limit readable_sharedAlpha 1
  have same : [("alpha", 1)] = listed := by
    rw [popular_sharedAlpha] at all
    exact Except.ok.inj (Prod.mk.inj all).1
  rw [← same] at first
  exact ⟨readable_sharedAlpha, first⟩

/-- With the limit zero a store hands back its members, although a tally lists none. -/
theorem not_popular_limit_zero :
    (∀ s ∈ sharedAlpha.shared, s.Readable) ∧
      sharedAlpha.popular none = (.ok [("alpha", 1)], []) ∧
      sharedAlpha.popular (some (.whole (0 : Nat))) = (.ok [("alpha", 1)], []) ∧
      (History.mk sharedAlpha.tally none).popular (some (.whole (0 : Nat))) = (.ok [], []) :=
  ⟨readable_sharedAlpha, popular_sharedAlpha, rfl, rfl⟩

end History

end OrderRetrieval

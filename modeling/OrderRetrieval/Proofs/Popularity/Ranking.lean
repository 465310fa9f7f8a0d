import OrderRetrieval.Proofs.Popularity.Sharing

/-!
# What is popular

Once no call is in flight, every service reads from the shared store all terms that were recorded,
and from its own tally those that it recorded itself, with the numbers of their occurrences
(`Sharing.popular_counted`).  The store counts with doubles, so its numbers stop at `countLimit`
(`Sharing.popular_stops`).
-/

namespace OrderRetrieval

open Double (counted countLimit)

/-- Whether a list has each of the given terms once, with what becomes of its number of occurrences,
the highest numbers first and equal numbers in the order of their terms. -/
structure Ranks (terms : List String) (number : Nat → Nat) (order : String → String → Prop)
    (listed : List (String × Int)) : Prop where
  nodup : (listed.map Prod.fst).Nodup
  mem_iff : ∀ t n, (t, n) ∈ listed ↔ t ∈ terms ∧ n = number (terms.count t)
  falling : listed.Pairwise fun a b => b.2 < a.2 ∨ (a.2 = b.2 ∧ order a.1 b.1)

section Ranks

variable {terms : List String}

/-- Terms that a sorted set has counted are read back in the opposite order. -/
theorem SortedSet.Holds.ranks {s : SortedSet} (h : s.Holds fun t => terms.count t) :
    Ranks terms counted (fun t u => u < t)
      (s.reverse.map fun e => (e.1, (counted (terms.count e.1) : Int))) where
  nodup := by
    rw [List.map_map]
    exact List.map_reverse ▸ List.nodup_reverse.2 h.nodup
  mem_iff t n := by
    simp only [List.mem_map, List.mem_reverse, Prod.mk.injEq]
    constructor
    · rintro ⟨e, he, rfl, rfl⟩
      exact ⟨List.count_pos_iff.1 ((h.mem_iff e.1 e.2).1 he).1, rfl⟩
    · rintro ⟨mem, rfl⟩
      exact ⟨(t, _), (h.mem_iff t _).2 ⟨List.count_pos_iff.2 mem, rfl⟩, rfl, rfl⟩
  falling := by
    refine List.pairwise_map.2 (List.pairwise_reverse.2 (h.ordered.imp_of_mem ?_))
    rintro ⟨t, x⟩ ⟨u, y⟩ ht hu before
    obtain ⟨first, rfl⟩ := (h.mem_iff t x).1 ht
    obtain ⟨second, rfl⟩ := (h.mem_iff u y).1 hu
    simp only [Int.ofNat_lt, Int.natCast_inj]
    rcases (before_iff first second).1 before with less | ⟨le, after⟩
    · exact .inl less
    · rcases Nat.lt_or_eq_of_le le with less | same
      · exact .inl less
      · exact .inr ⟨same.symm, after⟩

/-- Terms that a tally has counted are listed in the order in which they were first counted. -/
theorem Tally.ranks (terms : List String) :
    Ranks terms id (fun t u => terms.idxOf t < terms.idxOf u)
      ((addAll [] terms).ranked.map fun (t, n) => (t, (n : Int))) where
  nodup := by
    rw [List.map_map]
    exact nodup_ranked terms
  mem_iff t n := by
    simp only [List.mem_map, Prod.exists, mem_ranked, Prod.mk.injEq]
    constructor
    · rintro ⟨t, _, ⟨mem, rfl⟩, rfl, rfl⟩
      exact ⟨mem, rfl⟩
    · rintro ⟨mem, rfl⟩
      exact ⟨t, _, ⟨mem, rfl⟩, rfl, rfl⟩
  falling := by
    refine List.pairwise_map.2 ((pairwise_ranked terms).imp fun h => ?_)
    simpa only [Int.ofNat_lt, Int.natCast_inj] using h

/-- Lists of the same terms have the same numbers, as far as these are the same. -/
theorem Ranks.mem_iff_of_id {number : Nat → Nat} {order order' : String → String → Prop}
    {listed own : List (String × Int)} (h : Ranks terms number order listed)
    (h' : Ranks terms id order' own) (t : String) (n : Int) :
    (t, n) ∈ listed ↔ ∃ m : Nat, (t, (m : Int)) ∈ own ∧ n = number m := by
  simp only [h.mem_iff, h'.mem_iff, id, Int.natCast_inj]
  constructor
  · rintro ⟨mem, rfl⟩
    exact ⟨_, ⟨mem, rfl⟩, rfl⟩
  · rintro ⟨_, ⟨mem, rfl⟩, rfl⟩
    exact ⟨mem, rfl⟩

end Ranks

namespace Sharing

variable {ι : Type} [DecidableEq ι] {recorders : ι → Recorder} {s : Sharing ι}
variable {queries : List (ι × Option String)}

/-- Without calls in flight the store has counted every term. -/
theorem Exact.holds (exact : Exact recorders queries s) (done : s.calls = []) :
    s.members.Holds fun t => (recorded recorders queries).count t := by
  obtain ⟨count, holds, total⟩ := exact.shared
  have same : count = fun t => (recorded recorders queries).count t := by
    funext t
    have counted := total t
    simpa [waiting, done] using counted
  exact same ▸ holds

/-- What a service reads from the store. -/
theorem Exact.popular_shared (exact : Exact recorders queries s) (done : s.calls = [])
    (scanned : (distinct recorders queries : Int) ≤ SharedStore.scanSize) (i : ι) :
    ∃ shared, (s.history recorders i).popular none = (.ok shared, []) ∧
      Ranks (recorded recorders queries) counted (fun t u => u < t) shared := by
  have holds : (s.store recorders i).members.Holds _ := exact.holds done
  have le := Int.le_trans (Int.ofNat_le.2 exact.length_le) scanned
  refine ⟨_, ?_, (exact.holds done).ranks⟩
  simp only [History.popular, history, SharedStore.topTerms_eq rfl holds le]
  rfl

/-- What a service reads from its tally if it has no store to read from. -/
theorem Exact.popular_own (exact : Exact recorders queries s) (i : ι) :
    ∃ own, (History.mk (s.tallies i) none).popular none = (.ok own, []) ∧
      Ranks (recordedBy recorders i queries) id
        (fun t u => (recordedBy recorders i queries).idxOf t <
          (recordedBy recorders i queries).idxOf u) own :=
  ⟨_, by rw [exact.own]; rfl, Tally.ranks _⟩

theorem recordedBy_eq_recorded {i : ι} (alone : ∀ q ∈ queries, q.1 = i) :
    recordedBy recorders i queries = recorded recorders queries := by
  rw [recordedBy, List.filter_eq_self.2 fun q hq => decide_eq_true (alone q hq)]

/-- Services that share a store record queries, in whatever order their commands get there.  If the
different terms fit into the tallies and the store and into one reading, then every service reads
from the store all terms that were recorded with their numbers of occurrences, as far as doubles
count, and from its own tally the terms that it recorded itself with theirs.  If there is but one
service, both have the same terms with the same numbers. -/
theorem popular_counted (run : Run recorders start queries s) (done : s.calls = [])
    (fits : Fits recorders queries)
    (scanned : (distinct recorders queries : Int) ≤ SharedStore.scanSize) (i : ι) :
    ∃ shared own,
      (s.history recorders i).popular none = (.ok shared, []) ∧
      (History.mk (s.tallies i) none).popular none = (.ok own, []) ∧
      Ranks (recorded recorders queries) counted (fun t u => u < t) shared ∧
      Ranks (recordedBy recorders i queries) id
        (fun t u => (recordedBy recorders i queries).idxOf t <
          (recordedBy recorders i queries).idxOf u) own ∧
      ((∀ q ∈ queries, q.1 = i) →
        ∀ t n, (t, n) ∈ shared ↔ ∃ m : Nat, (t, (m : Int)) ∈ own ∧ n = counted m) := by
  have exact := run.exact fits
  obtain ⟨shared, read, ranks⟩ := exact.popular_shared done scanned i
  obtain ⟨own, listed, ranks'⟩ := exact.popular_own i
  refine ⟨shared, own, read, listed, ranks, ranks', fun alone => ?_⟩
  rw [recordedBy_eq_recorded alone] at ranks'
  exact ranks.mem_iff_of_id ranks'

/-- Two services, only one of which has members of the store handed back as texts. -/
def pair (i : Bool) : Recorder := ⟨.default, i⟩

/-- One service records "abc xyz" while the other one records "Abc abc". -/
theorem popular_counted_pair :
    ∃ (s : Sharing Bool) (shared own : List (String × Int)),
      Run pair start [(false, some "abc xyz"), (true, some "Abc abc")] s ∧ s.calls = [] ∧
      (s.history pair true).popular none = (.ok shared, []) ∧
      (History.mk (s.tallies true) none).popular none = (.ok own, []) ∧
      ("abc", 3) ∈ shared ∧ ("xyz", 1) ∈ shared ∧ ("abc", 2) ∈ own := by
  have received : Run pair start [(false, some "abc xyz"), (true, some "Abc abc")] _ :=
    (Run.step .receive).snoc .receive
  -- The second service counts its first term before the first one counts any, and trims last.
  have first := received.snoc (.count [⟨true, ["abc", "abc"]⟩] [] rfl)
  have second := first.snoc (.count [] [⟨false, ["xyz"]⟩] rfl)
  have third := second.snoc (.count [⟨true, ["abc"]⟩] [] rfl)
  have fourth := third.snoc (.trim [⟨true, ["abc"]⟩] [] rfl)
  have fifth := fourth.snoc (.count [] [] rfl)
  have run := fifth.snoc (.trim [] [] rfl)
  have fits : Fits pair [(false, some "abc xyz"), (true, some "Abc abc")] := fun _ => rfl
  obtain ⟨shared, own, read, listed, ranks, ranks', -⟩ :=
    popular_counted run rfl fits (by decide) true
  refine ⟨_, shared, own, run, rfl, read, listed, ?_, ?_, ?_⟩
  · exact (ranks.mem_iff "abc" 3).2 ⟨by decide, by decide⟩
  · exact (ranks.mem_iff "xyz" 1).2 ⟨by decide, by decide⟩
  · exact (ranks'.mem_iff "abc" 2).2 ⟨by decide, by decide⟩

theorem recorded_replicate (n : Nat) :
    recorded pair (List.replicate n (true, some "abc")) = List.replicate n "abc" := by
  have one : History.terms (pair true).settings (some "abc") = ["abc"] := by decide
  unfold recorded
  rw [List.flatMap_replicate]
  simp only [one, List.flatten_replicate_singleton]

theorem distinct_replicate (n : Nat) :
    distinct pair (List.replicate n (true, some "abc")) ≤ 1 := by
  have sub : recorded pair (List.replicate n (true, some "abc")) ⊆ ["abc"] := by
    rw [recorded_replicate]
    exact fun t mem => List.mem_singleton.2 (List.eq_of_mem_replicate mem)
  exact length_eraseDups_le sub

/-- A term that was recorded once more than doubles count is read back with one occurrence less. -/
theorem popular_stops :
    ∃ (s : Sharing Bool) (shared : List (String × Int)),
      Run pair start (List.replicate (countLimit + 1) (true, some "abc")) s ∧ s.calls = [] ∧
      Fits pair (List.replicate (countLimit + 1) (true, some "abc")) ∧
      (distinct pair (List.replicate (countLimit + 1) (true, some "abc")) : Int) ≤
        SharedStore.scanSize ∧
      (recorded pair (List.replicate (countLimit + 1) (true, some "abc"))).count "abc" =
        countLimit + 1 ∧
      (s.history pair true).popular none = (.ok shared, []) ∧
      ∀ n, ("abc", n) ∈ shared ↔ n = countLimit := by
  -- From here on the number of queries is a variable, so no list of that length is ever built.
  generalize more : countLimit + 1 = n
  obtain ⟨s, run, done⟩ :
      ∃ s, Run pair start (List.replicate n (true, some "abc")) s ∧ s.calls = [] := run_in_turn _
  have one := distinct_replicate n
  have fits : Fits pair (List.replicate n (true, some "abc")) := by
    intro i
    simp only [pair, Settings.default, Quantity.lt, decide_eq_false_iff_not]
    omega
  have scanned : (distinct pair (List.replicate n (true, some "abc")) : Int) ≤
      SharedStore.scanSize := by
    unfold SharedStore.scanSize
    omega
  have count : (recorded pair (List.replicate n (true, some "abc"))).count "abc" = n := by
    rw [recorded_replicate, List.count_replicate_self]
  obtain ⟨shared, read, ranks⟩ := (run.exact fits).popular_shared done scanned true
  refine ⟨s, shared, run, done, fits, scanned, count, read, fun k => ?_⟩
  have mem : "abc" ∈ recorded pair (List.replicate n (true, some "abc")) :=
    List.count_pos_iff.1 (by omega)
  have stops : counted n = countLimit := Nat.min_eq_right (by omega)
  rw [ranks.mem_iff, and_iff_right mem, count, stops]

end Sharing

end OrderRetrieval

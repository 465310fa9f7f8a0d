import OrderRetrieval.Proofs.Matching.Score
import OrderRetrieval.Proofs.Text.LowerCase

/-!
# Queries put together

The words of two texts with a space between them are the words of the one and then those of the
other (`queryWords_append_space`), for the lower case of a text falls apart at a space.  So a search
for both finds what a search for either finds, and what a document earns for both is the sum of what
it earns for each (`Matcher.queries_compose`).
-/

namespace OrderRetrieval

theorem queryWords_append_space (a b : String) :
    queryWords (a ++ " " ++ b) = queryWords a ++ queryWords b := by
  have space : Text.isSeparator ' ' = true := by decide +kernel
  have joined : (a ++ " " ++ b).toList = a.toList ++ ' ' :: b.toList := by simp
  have lowered : Text.lowerChars [' '] = [' '] := by decide
  rw [queryWords, joined, Text.lowerChars_append_separator space, lowered]
  exact Text.words_append_blank _ _ (by decide)

/-- A document with a mail address and a note. -/
def Document.noted (customerEmail notes : String) : Document :=
  { (default : Document) with customerEmail, notes }

namespace Matcher

variable {d : Document} {ds : List Document}

theorem pairs_append (m : Matcher) (v w : List (List Char)) (d : Document) :
    m.pairs (v ++ w) d = m.pairs v d ++ m.pairs w d := by
  rw [pairs, pairs, pairs, ← List.filter_append]
  exact congrArg _ List.flatMap_append

theorem total_append (m : Matcher) (v w : List (List Char)) (d : Document) :
    m.total (v ++ w) d = m.total v d + m.total w d := by
  rw [total, pairs_append, List.map_append, List.sum_append]
  rfl

/-- What a document earns for the words of two searches is the sum of what it earns for each. -/
theorem earned?_append (m : Matcher) (v w : List (List Char)) (d : Document) :
    m.earned? (v ++ w) d = (m.earned? v d).merge (· + ·) (m.earned? w d) := by
  have none {words : List (List Char)} (h : m.pairs words d = []) : m.total words d = 0 := by
    rw [total, h]
    rfl
  simp only [earned?, pairs_append, total_append, List.append_eq_nil_iff]
  by_cases hv : m.pairs v d = []
  · by_cases hw : m.pairs w d = []
    · simp [hv, hw]
    · simp [hv, hw, none hv]
  · by_cases hw : m.pairs w d = []
    · simp [hv, hw, none hw]
    · simp [hv, hw]

theorem mem_map_fst_iff {listed : List (Document × Nat)} {score : Document → Option Nat}
    (perm : listed.Perm (ds.filterMap fun d => (score d).map (d, ·))) :
    d ∈ listed.map Prod.fst ↔ d ∈ ds ∧ (score d).isSome = true := by
  rw [(perm.map Prod.fst).mem_iff, List.mem_map]
  simp only [List.mem_filterMap, Option.map_eq_some_iff, Option.isSome_iff_exists]
  constructor
  · rintro ⟨_, ⟨e, he, n, hn, rfl⟩, rfl⟩
    exact ⟨he, n, hn⟩
  · rintro ⟨hd, n, hn⟩
    exact ⟨_, ⟨d, hd, n, hn, rfl⟩, rfl⟩

/-- The words of a text that is put together from two texts with a space between them are the words
of both, one after the other.  If each has words, a search for the whole fails where those for the
two texts fail, and otherwise it lists the documents that one of them lists, with the sum of what a
document earns for each. -/
theorem queries_compose (m : Matcher) (a b : String) (ds : List Document) :
    queryWords (a ++ " " ++ b) = queryWords a ++ queryWords b ∧
      (queryWords a ≠ [] → queryWords b ≠ [] →
        (∃ e, m.rank (queryWords a) ds = .error e ∧ m.rank (queryWords b) ds = .error e ∧
          m.rank (queryWords (a ++ " " ++ b)) ds = .error e) ∨
        ∃ forA forB both, m.rank (queryWords a) ds = .ok forA ∧
          m.rank (queryWords b) ds = .ok forB ∧
          m.rank (queryWords (a ++ " " ++ b)) ds = .ok both ∧
          (∀ d, d ∈ both.map Prod.fst ↔ d ∈ forA.map Prod.fst ∨ d ∈ forB.map Prod.fst) ∧
          ∃ p q : Document → Option Nat,
            forA.Perm (ds.filterMap fun d => (p d).map (d, ·)) ∧
            forB.Perm (ds.filterMap fun d => (q d).map (d, ·)) ∧
            both.Perm (ds.filterMap fun d => ((p d).merge (· + ·) (q d)).map (d, ·))) := by
  have words := queryWords_append_space a b
  refine ⟨words, fun ha hb => ?_⟩
  have nonempty : queryWords (a ++ " " ++ b) ≠ [] := by
    rw [words]
    exact List.append_ne_nil_of_left_ne_nil ha _
  rcases readable_or_fails m.fields ds with readable | ⟨e, fails⟩
  · obtain ⟨forA, rankA, permA⟩ := exists_rank_perm ha readable
    obtain ⟨forB, rankB, permB⟩ := exists_rank_perm hb readable
    obtain ⟨both, rankBoth, permBoth⟩ := exists_rank_perm nonempty readable
    rw [hits_eq_filterMap] at permA permB permBoth
    simp only [words, earned?_append] at permBoth
    refine .inr ⟨forA, forB, both, rankA, rankB, rankBoth, fun d => ?_, _, _, permA, permB,
      permBoth⟩
    rw [mem_map_fst_iff permA, mem_map_fst_iff permB, mem_map_fst_iff permBoth,
      Option.isSome_merge, Bool.or_eq_true]
    exact and_or_left
  · exact .inl ⟨e, fails m.closeness _ ha, fails m.closeness _ hb, fails m.closeness _ nonempty⟩

/-- The points of the whole text, of its beginning and of another place in it add up. -/
theorem queries_compose_lamp :
    queryWords "Red" ≠ [] ∧ queryWords "LAMP" ≠ [] ∧
      ∃ (m : Matcher) (d : Document), m = ⟨[.customerEmail, .notes], .contained⟩ ∧
        d = .noted "lamp" "Lamp red" ∧
        m.rank (queryWords "Red") [d] = .ok [(d, 2)] ∧
        m.rank (queryWords "LAMP") [d] = .ok [(d, 15)] ∧
        m.rank (queryWords ("Red" ++ " " ++ "LAMP")) [d] = .ok [(d, 17)] := by
  have scored : ∃ (m : Matcher) (d : Document), m = ⟨[.customerEmail, .notes], .contained⟩ ∧
      d = .noted "lamp" "Lamp red" ∧ m.scored (queryWords "Red") [d] = .ok [(d, 2)] ∧
      m.scored (queryWords "LAMP") [d] = .ok [(d, 15)] := ⟨_, _, rfl, rfl, rfl, rfl⟩
  obtain ⟨m, d, hm, hd, scoredA, scoredB⟩ := scored
  have ha : queryWords "Red" ≠ [] := by decide
  have hb : queryWords "LAMP" ≠ [] := by decide
  have rankA : m.rank (queryWords "Red") [d] = .ok [(d, 2)] := by
    rw [rank, scoredA]
    exact congrArg Except.ok (List.mergeSort_singleton _)
  have rankB : m.rank (queryWords "LAMP") [d] = .ok [(d, 15)] := by
    rw [rank, scoredB]
    exact congrArg Except.ok (List.mergeSort_singleton _)
  refine ⟨ha, hb, m, d, hm, hd, rankA, rankB, ?_⟩
  rcases (queries_compose m "Red" "LAMP" [d]).2 ha hb with ⟨e, fails, -⟩ |
    ⟨_, _, both, rankA', rankB', rankBoth, -, p, q, permA, permB, permBoth⟩
  · rw [rankA] at fails
    cases fails
  · cases rankA.symm.trans rankA'
    cases rankB.symm.trans rankB'
    have earned {n : Nat} {score : Document → Option Nat}
        (perm : [(d, n)].Perm ([d].filterMap fun d => (score d).map (d, ·))) :
        score d = some n := by
      have perm := List.singleton_perm.1 perm
      cases earns : score d with
      | none => simp [earns] at perm
      | some k => simpa [earns, eq_comm] using perm
    simp only [List.filterMap_cons, List.filterMap_nil, earned permA, earned permB] at permBoth
    rw [List.perm_singleton.1 permBoth] at rankBoth
    exact rankBoth

end Matcher

end OrderRetrieval

import Mathlib.Algebra.Order.BigOperators.Group.List
import Mathlib.Algebra.Order.Field.Basic
import Mathlib.Data.Rat.Cast.Order
import OrderRetrieval.Proofs.Matching.EditDistance
import OrderRetrieval.Proofs.Matching.Score
import OrderRetrieval.Proofs.Number.Quotient

/-!
# The threshold of a fuzzy search

The points of a pair that matches do not depend on when pairs match.  So a search for which more
pairs match finds more documents, each with at least as many points (`Matcher.hits_mono`).  In
particular this is so of a lower threshold.  Nothing agrees less than zero, since no more edits are
needed than the longer text has characters, and only equal texts agree to one, since only they need
no edit.  All this holds for the agreement as a double as well as for the exact ratio
(`Matcher.fuzzy_monotone`).
-/

namespace OrderRetrieval

/-! ## Agreement as a double and as a ratio -/

namespace Matching

/-- One less a distance in exact proportion to a length, and one if there is no length. -/
def ratio (distance longest : Nat) : ℚ := if longest = 0 then 1 else 1 - distance / longest

variable {distance longest : Nat}

theorem ratio_nonneg (h : distance ≤ longest) : 0 ≤ ratio distance longest := by
  unfold ratio
  split
  · exact zero_le_one
  · next some =>
    have pos : (0 : ℚ) < longest := Nat.cast_pos.2 (Nat.pos_of_ne_zero some)
    rw [sub_nonneg, div_le_one pos]
    exact Nat.cast_le.2 h

theorem one_le_ratio_iff (h : distance ≤ longest) : 1 ≤ ratio distance longest ↔ distance = 0 := by
  unfold ratio
  split
  · next none => exact iff_of_true le_rfl (Nat.le_zero.1 (none ▸ h))
  · next some =>
    have pos : (0 : ℚ) < longest := Nat.cast_pos.2 (Nat.pos_of_ne_zero some)
    rw [le_sub_self_iff, div_le_iff₀ pos, zero_mul, ← Nat.cast_zero, Nat.cast_le, Nat.le_zero]

theorem agreement_zero (small : longest < Double.countLimit) : agreement 0 longest = 1 := by
  unfold agreement
  split
  · rfl
  · next some => exact Double.one_sub_zero_div (Nat.pos_of_ne_zero some) small

/-- Where an edit is needed the agreement is a double from zero to below one. -/
theorem rank?_agreement (pos : 0 < distance) (h : distance ≤ longest)
    (small : longest < Double.countLimit) :
    ∃ i : Nat, Double.rank? (agreement distance longest) = some (i : Int) ∧
      i < 1023 * Number.twoTo 52 := by
  rw [agreement, if_neg (Nat.ne_of_gt (pos.trans_le h))]
  exact Double.rank?_one_sub_div pos h small

theorem zero_le_agreement (h : distance ≤ longest) (small : longest < Double.countLimit) :
    Double.le 0 (agreement distance longest) = true := by
  rcases Nat.eq_zero_or_pos distance with rfl | pos
  · rw [agreement_zero small]
    rfl
  · obtain ⟨i, rank, -⟩ := rank?_agreement pos h small
    exact Double.le_iff.2 ⟨0, i, rfl, rank, Int.natCast_nonneg i⟩

theorem one_le_agreement_iff (h : distance ≤ longest) (small : longest < Double.countLimit) :
    Double.le 1 (agreement distance longest) = true ↔ distance = 0 := by
  rcases Nat.eq_zero_or_pos distance with rfl | pos
  · rw [agreement_zero small]
    exact iff_of_true rfl rfl
  · refine iff_of_false (fun le => ?_) (Nat.ne_of_gt pos)
    obtain ⟨i, rank, less⟩ := rank?_agreement pos h small
    obtain ⟨one, j, rank', rank'', le⟩ := Double.le_iff.1 le
    have unit : Double.rank? 1 = some ((1023 * Number.twoTo 52 : Nat) : Int) := rfl
    rw [unit, Option.some.injEq] at rank'
    rw [rank, Option.some.injEq] at rank''
    omega

end Matching

namespace Closeness

/-- Words whose agreement with the whole text is at least that ratio match. -/
def ofRatio (threshold : ℚ) : Closeness :=
  similar fun distance longest => decide (threshold ≤ Matching.ratio distance longest)

variable {word text : List Char}

section Ratio

variable {t u : ℚ}

theorem matches_ofRatio_iff : (ofRatio t).matches word text = true ↔
    t ≤ Matching.ratio (Matching.editDistance word text) (Matching.longerLength word text) :=
  decide_eq_true_iff

/-- A pair that matches at a threshold does so at a lower one. -/
theorem ofRatio_mono (le : t ≤ u) (h : (ofRatio u).matches word text = true) :
    (ofRatio t).matches word text = true :=
  matches_ofRatio_iff.2 (le.trans (matches_ofRatio_iff.1 h))

theorem matches_ofRatio_zero (word text : List Char) : (ofRatio 0).matches word text = true :=
  matches_ofRatio_iff.2 (Matching.ratio_nonneg (Matching.editDistance_le_max word text))

theorem matches_ofRatio_one_iff : (ofRatio 1).matches word text = true ↔ text = word := by
  have bound : Matching.editDistance word text ≤ Matching.longerLength word text :=
    Matching.editDistance_le_max word text
  rw [matches_ofRatio_iff, Matching.one_le_ratio_iff bound, Matching.editDistance_eq_zero_iff,
    eq_comm]

end Ratio

section Double

variable {t u : Float}

/-- A pair that matches at a threshold does so at a lower one. -/
theorem ofThreshold_mono (le : Double.le t u = true)
    (h : (ofThreshold u).matches word text = true) : (ofThreshold t).matches word text = true :=
  Double.le_trans le h

/-- Thresholds that are equal as numbers decide alike. -/
theorem ofThreshold_congr (same : Double.eq t u = true) : ofThreshold t = ofThreshold u := by
  obtain ⟨i, ht, hu⟩ := Double.eq_iff.1 same
  unfold ofThreshold Double.le Double.compares
  rw [ht, hu]

variable (small : Matching.longerLength word text < Double.countLimit)

include small

theorem matches_ofThreshold_zero : (ofThreshold 0).matches word text = true :=
  Matching.zero_le_agreement (Matching.editDistance_le_max word text) small

theorem matches_ofThreshold_one_iff : (ofThreshold 1).matches word text = true ↔ text = word := by
  refine (Matching.one_le_agreement_iff (Matching.editDistance_le_max word text) small).trans ?_
  rw [Matching.editDistance_eq_zero_iff, eq_comm]

end Double

end Closeness

namespace Matcher

/-! ## Searches for which more pairs match -/

section Closer

variable {fields : List Field} {c c' : Closeness} {words : List (List Char)} {d : Document}
  {ds : List Document}
  (closer : ∀ word text, c'.matches word text = true → c.matches word text = true)

include closer

theorem pairs_sublist :
    ((Matcher.mk fields c').pairs words d).Sublist ((Matcher.mk fields c).pairs words d) :=
  List.monotone_filter_right _ fun p => closer p.1 (d.lowerText p.2)

theorem total_le :
    (Matcher.mk fields c').total words d ≤ (Matcher.mk fields c).total words d :=
  ((pairs_sublist closer).map _).sum_le_sum fun _ _ => Nat.zero_le _

/-- Where more pairs match more documents are found, each with at least as many points. -/
theorem hits_mono :
    (((Matcher.mk fields c').hits words ds).map Prod.fst).Sublist
        (((Matcher.mk fields c).hits words ds).map Prod.fst) ∧
      ∀ d i j, (d, i) ∈ (Matcher.mk fields c').hits words ds →
        (d, j) ∈ (Matcher.mk fields c).hits words ds → i ≤ j := by
  constructor
  · rw [map_fst_hits, map_fst_hits]
    refine List.monotone_filter_right _ fun d found => ?_
    rw [decide_eq_true_iff] at found ⊢
    intro none
    exact found (List.sublist_nil.1 (none ▸ pairs_sublist closer))
  · intro d i j hi hj
    obtain ⟨_, _, eq⟩ := List.mem_map.1 hi
    obtain ⟨_, _, eq'⟩ := List.mem_map.1 hj
    cases eq
    cases eq'
    exact total_le closer

end Closer

theorem fields_ne_nil_of_ofNames {names : Option (List String)} {c : Closeness} {m : Matcher}
    (h : ofNames names c = .ok m) : m.fields ≠ [] := by
  obtain ⟨fields, resolved, rfl⟩ := Except.map_eq_ok.1 h
  have length := (Except.mapM_eq_ok_iff.1 resolved).length_eq
  rintro rfl
  match names with
  | none | some [] | some (_ :: _) => cases length

/-! ## The lowest and the highest threshold -/

section Extremes

variable {fields : List Field} {c : Closeness} {words : List (List Char)} {d : Document}
  {ds : List Document}

/-- Where every pair matches every document is found. -/
theorem map_fst_hits_of_all (nonempty : words ≠ []) (named : fields ≠ [])
    (all : ∀ w ∈ words, ∀ d ∈ ds, ∀ f ∈ fields, c.matches w (d.lowerText f) = true) :
    ((Matcher.mk fields c).hits words ds).map Prod.fst = ds := by
  rw [map_fst_hits, List.filter_eq_self]
  intro d hd
  obtain ⟨w, hw⟩ := List.exists_mem_of_ne_nil words nonempty
  obtain ⟨f, hf⟩ := List.exists_mem_of_ne_nil fields named
  rw [decide_eq_true_iff, pairs_ne_nil_iff]
  exact ⟨w, hw, f, hf, all w hw d hd f hf⟩

/-- Whether one of some words is the whole text of one of some fields. -/
def HasWhole (fields : List Field) (words : List (List Char)) (d : Document) : Prop :=
  ∃ w ∈ words, ∃ f ∈ fields, (d.textValue f).map (fun s => Text.lowerChars s.toList) = .ok w

/-- Where only equal texts match those are found that have a word for the whole text of a field. -/
theorem mem_map_fst_hits_of_whole (readable : ∀ d ∈ ds, d.Readable fields)
    (whole : ∀ w ∈ words, ∀ d ∈ ds, ∀ f ∈ fields,
      c.matches w (d.lowerText f) = true ↔ d.lowerText f = w) :
    d ∈ ((Matcher.mk fields c).hits words ds).map Prod.fst ↔ d ∈ ds ∧ HasWhole fields words d := by
  rw [map_fst_hits, List.mem_filter, decide_eq_true_iff, pairs_ne_nil_iff]
  refine and_congr_right fun hd => ?_
  refine exists_congr fun w => and_congr_right fun hw => exists_congr fun f =>
    and_congr_right fun hf => ?_
  obtain ⟨s, hs⟩ := readable d hd f hf
  rw [whole w hw d hd f hf, Document.lowerText, hs]
  exact (Except.ok.injEq _ _).to_iff.symm

end Extremes

/-- Whether one list of documents with points has all those of another, with at least as many
points. -/
structure IsLooser (loose strict : List (Document × Nat)) : Prop where
  documents : (strict.map Prod.fst).Subperm (loose.map Prod.fst)
  points : ∀ d i j, (d, i) ∈ strict → (d, j) ∈ loose → i ≤ j

/-- **Raising the threshold of a fuzzy search.**  Searches for some words in the same fields all
fail alike if a document cannot be read, and otherwise all answer.  Of two thresholds, the higher
one finds no document that the other does not, and none with more points.  At threshold zero every
document is found, and at threshold one those with a field of which the whole text is one of the
words.  So it is with thresholds that are doubles, where texts are shorter than doubles count, and
with exact ratios. -/
theorem fuzzy_monotone {names : Option (List String)} {fields : List Field}
    (named : ∀ c, ofNames names c = .ok ⟨fields, c⟩) {s : String} (words : queryWords s ≠ [])
    (ds : List Document) :
    (∃ e, ∀ c, (Matcher.mk fields c).rank (queryWords s) ds = .error e) ∨
      ∃ found : Closeness → List (Document × Nat),
        (∀ c, (Matcher.mk fields c).rank (queryWords s) ds = .ok (found c)) ∧
        (∀ t u, Double.le t u = true →
          IsLooser (found (.ofThreshold t)) (found (.ofThreshold u))) ∧
        (∀ t u, t ≤ u → IsLooser (found (.ofRatio t)) (found (.ofRatio u))) ∧
        ((∀ w ∈ queryWords s, ∀ d ∈ ds, ∀ f ∈ fields,
            Matching.longerLength w (d.lowerText f) < Double.countLimit) →
          (∀ t, Double.eq t 0 = true → ((found (.ofThreshold t)).map Prod.fst).Perm ds) ∧
          ∀ t, Double.eq t 1 = true → ∀ d, d ∈ (found (.ofThreshold t)).map Prod.fst ↔
            d ∈ ds ∧ HasWhole fields (queryWords s) d) ∧
        ((found (.ofRatio 0)).map Prod.fst).Perm ds ∧
        ∀ d, d ∈ (found (.ofRatio 1)).map Prod.fst ↔
          d ∈ ds ∧ HasWhole fields (queryWords s) d := by
  have some : fields ≠ [] := fields_ne_nil_of_ofNames (named .contained)
  rcases readable_or_fails fields ds with readable | ⟨e, fails⟩
  swap
  · exact .inl ⟨e, fun c => fails c _ words⟩
  choose found rank perm using fun c => exists_rank_perm (m := ⟨fields, c⟩) words readable
  have looser {c c' : Closeness}
      (closer : ∀ word text, c'.matches word text = true → c.matches word text = true) :
      IsLooser (found c) (found c') := by
    obtain ⟨fewer, points⟩ := @hits_mono fields c c' (queryWords s) ds closer
    constructor
    · exact (((perm c').map Prod.fst).subperm.trans fewer.subperm).trans
        ((perm c).map Prod.fst).symm.subperm
    · intro d i j hi hj
      exact points d i j ((perm c').mem_iff.1 hi) ((perm c).mem_iff.1 hj)
  have all {c : Closeness} (matchesAll : ∀ w ∈ queryWords s, ∀ d ∈ ds, ∀ f ∈ fields,
      c.matches w (d.lowerText f) = true) : ((found c).map Prod.fst).Perm ds :=
    ((perm c).map Prod.fst).trans (.of_eq (map_fst_hits_of_all words some matchesAll))
  have exact {c : Closeness} (whole : ∀ w ∈ queryWords s, ∀ d ∈ ds, ∀ f ∈ fields,
      c.matches w (d.lowerText f) = true ↔ d.lowerText f = w) (d : Document) :
      d ∈ (found c).map Prod.fst ↔ d ∈ ds ∧ HasWhole fields (queryWords s) d := by
    rw [((perm c).map Prod.fst).mem_iff]
    exact mem_map_fst_hits_of_whole readable whole
  refine .inr ⟨found, rank, fun t u le => looser fun _ _ => Closeness.ofThreshold_mono le,
    fun t u le => looser fun _ _ => Closeness.ofRatio_mono le, fun small => ⟨?_, ?_⟩,
    all fun w _ d _ f _ => Closeness.matches_ofRatio_zero w _,
    exact fun w _ d _ f _ => Closeness.matches_ofRatio_one_iff⟩
  · intro t zero
    rw [Closeness.ofThreshold_congr zero]
    exact all fun w hw d hd f hf => Closeness.matches_ofThreshold_zero (small w hw d hd f hf)
  · intro t one
    rw [Closeness.ofThreshold_congr one]
    exact exact fun w hw d hd f hf => Closeness.matches_ofThreshold_one_iff (small w hw d hd f hf)

/-- A note of one more letter than the word is found at threshold zero and not at threshold one. -/
theorem fuzzy_monotone_lamps :
    ∃ (a b : Document) (loose strict : List (Document × Nat)),
      (∀ c, ofNames (some ["notes"]) c = .ok ⟨[.notes], c⟩) ∧ queryWords "LAMP" ≠ [] ∧
      a.notes = "Lamp" ∧ b.notes = "Lamps" ∧
      (Matcher.mk [.notes] (.ofThreshold 0)).rank (queryWords "LAMP") [a, b] = .ok loose ∧
      (Matcher.mk [.notes] (.ofThreshold 1)).rank (queryWords "LAMP") [a, b] = .ok strict ∧
      (loose.map Prod.fst).Perm [a, b] ∧ a ∈ strict.map Prod.fst ∧ b ∉ strict.map Prod.fst := by
  let a : Document := { (default : Document) with notes := "Lamp" }
  let b : Document := { (default : Document) with notes := "Lamps" }
  have words : queryWords "LAMP" = ["lamp".toList] := by decide
  have nonempty : queryWords "LAMP" ≠ [] := by
    rw [words]
    exact List.cons_ne_nil _ _
  have named (c : Closeness) : ofNames (some ["notes"]) c = .ok ⟨[.notes], c⟩ := rfl
  rcases fuzzy_monotone named nonempty [a, b] with
    ⟨e, fails⟩ | ⟨found, rank, -, -, doubles, -⟩
  · have readable : ∀ d ∈ [a, b], d.Readable [.notes] := by
      intro d _ f hf
      obtain rfl := List.mem_singleton.1 hf
      exact ⟨d.notes, rfl⟩
    obtain ⟨listed, rank, -⟩ :=
      exists_rank_perm (m := ⟨[.notes], .contained⟩) nonempty readable
    cases (fails .contained).symm.trans rank
  · have small : ∀ w ∈ queryWords "LAMP", ∀ d ∈ [a, b], ∀ f ∈ [Field.notes],
        Matching.longerLength w (d.lowerText f) < Double.countLimit := by
      rw [words]
      decide
    obtain ⟨all, exact⟩ := doubles small
    refine ⟨a, b, _, _, named, nonempty, rfl, rfl, rank _, rank _, all 0 rfl, ?_, ?_⟩
    · rw [exact 1 rfl a, words]
      have text : Text.lowerChars "Lamp".toList = "lamp".toList := by decide
      exact ⟨List.mem_cons_self, _, List.mem_cons_self, .notes, List.mem_cons_self,
        congrArg Except.ok text⟩
    · rw [exact 1 rfl b, words]
      rintro ⟨-, w, hw, f, hf, eq⟩
      obtain rfl := List.mem_singleton.1 hw
      obtain rfl := List.mem_singleton.1 hf
      have text : Text.lowerChars "Lamps".toList = "lamp".toList := Except.ok.inj eq
      revert text
      decide

end Matcher

end OrderRetrieval

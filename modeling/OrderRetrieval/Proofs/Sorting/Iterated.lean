import OrderRetrieval.Proofs.Sorting.Obstacle
import OrderRetrieval.Proofs.Sorting.Order

/-!
# Sorting by several keys, one after the other

Items that are sorted by some keys and then by others are sorted by the others first
(`sort_append`).  So sorting by several keys is sorting by each of them in turn, from the last to
the first (`sort_eq_foldrM`), whatever the scores are, as long as they are compared by size.
-/

namespace OrderRetrieval

variable {σ τ : Type}

/-- The item with another score in the place of its own. -/
def Scored.mapScore (g : σ → τ) (a : Scored σ) : Scored τ := ⟨a.document, g a.score⟩

@[simp] theorem Scored.document_mapScore (g : σ → τ) (a : Scored σ) :
    (a.mapScore g).document = a.document := rfl

/-- What can be sorted by some keys can be sorted by fewer. -/
theorem Document.SortableBy.mono {ks ks' : List Sorting.Key} {d : Document} (h : d.SortableBy ks)
    (subset : ks' ⊆ ks) : d.SortableBy ks' where
  regular := h.regular
  noNul k hk := h.noNul k (subset hk)

namespace Sorting

open Number (twoTo twoTo_pos)

/-! ## Scores by size -/

section Scores

variable {compareScores : σ → σ → Ordering} {compareOthers : τ → τ → Ordering} {g : σ → τ}

theorem row_cons (k : Key) (ks : List Key) (a : Scored σ) :
    row (k :: ks) a = (k.descending, k.cell a) :: row ks a := rfl

/-- The cells of fields do not depend on the scores. -/
theorem Cell.order_ofValue (descending : Bool) (v w : Value) :
    (ofValue v : Cell τ).order compareOthers descending (ofValue w) =
      (ofValue v : Cell σ).order compareScores descending (ofValue w) := by
  cases v <;> cases w <;> rfl

theorem Cell.hasNul_ofValue (v : Value) :
    (ofValue v : Cell τ).hasNul = (ofValue v : Cell σ).hasNul := by
  cases v <;> rfl

theorem Cell.order_relevance {x y : σ} (agree : compareOthers (g x) (g y) = compareScores x y)
    (descending : Bool) :
    (relevance (g x) : Cell τ).order compareOthers descending (relevance (g y)) =
      (relevance x : Cell σ).order compareScores descending (relevance y) := by
  simp only [order, isMissing, compare, agree]

/-- Rows are in the same order if the scores are. -/
theorem order_row_mapScore {a b : Scored σ}
    (agree : compareOthers (g a.score) (g b.score) = compareScores a.score b.score)
    (ks : List Key) :
    (row ks (a.mapScore g)).order compareOthers (row ks (b.mapScore g)) =
      (row ks a).order compareScores (row ks b) := by
  induction ks with
  | nil => rfl
  | cons k ks ih =>
    obtain ⟨subject, descending⟩ := k
    rw [row_cons, row_cons, row_cons, row_cons]
    cases subject with
    | relevance => exact congrArg₂ Ordering.then (Cell.order_relevance agree descending) ih
    | field f =>
      simp only [Key.cell, Scored.document_mapScore]
      cases a.document.key f with
      | error e => rfl
      | ok v =>
        cases b.document.key f with
        | error e => rfl
        | ok w => exact congrArg₂ Ordering.then (Cell.order_ofValue descending v w) ih

theorem isFragile_row_mapScore (a : Scored σ) (ks : List Key) :
    (row ks (a.mapScore g)).isFragile = (row ks a).isFragile := by
  simp only [Row.isFragile, row, List.any_map]
  refine congrArg ks.any (funext fun k => ?_)
  simp only [Function.comp_apply, Key.cell]
  cases k.subject with
  | relevance => rfl
  | field f =>
    simp only [Scored.document_mapScore]
    cases a.document.key f with
    | error e => rfl
    | ok v => exact Cell.hasNul_ofValue v

end Scores

/-- Items under some keys in turn, scores by the numbers that they stand for. -/
def scoredOrder (g : σ → Nat) (ks : List Key) (a b : Scored σ) : Ordering :=
  keysOrder ks (a.mapScore g) (b.mapScore g)

instance (g : σ → Nat) (ks : List Key) : Std.TransCmp (scoredOrder g ks) where
  eq_swap {a b} := @Std.OrientedCmp.eq_swap _ (keysOrder ks) _ (a.mapScore g) (b.mapScore g)
  isLE_trans {a b c} :=
    @Std.TransCmp.isLE_trans _ (keysOrder ks) _ (a.mapScore g) (b.mapScore g) (c.mapScore g)

/-- Keys after others settle what these leave open. -/
theorem keysOrder_append (ks ks' : List Key) :
    keysOrder (ks ++ ks') = compareLex (keysOrder ks) (keysOrder ks') := by
  induction ks with
  | nil => rfl
  | cons k ks ih =>
    rw [List.cons_append, keysOrder, ih, keysOrder]
    funext a b
    exact (Ordering.then_assoc _ _ _).symm

theorem scoredOrder_append (g : σ → Nat) (ks ks' : List Key) :
    scoredOrder g (ks ++ ks') = compareLex (scoredOrder g ks) (scoredOrder g ks') := by
  funext a b
  rw [scoredOrder, keysOrder_append]
  rfl

/-! ## Sorting twice -/

variable {specs first last : List SortSpec}

theorem keys_eq_map (h : specs ≠ []) : keys specs = specs.map fun spec => (Key.ofSpec spec).1 := by
  rw [keys, List.isEmpty_eq_false_iff.2 h]
  rfl

theorem keys_append (hfirst : first ≠ []) (hlast : last ≠ []) :
    keys (first ++ last) = keys first ++ keys last := by
  rw [keys_eq_map hfirst, keys_eq_map hlast,
    keys_eq_map (List.append_ne_nil_of_left_ne_nil hfirst _), List.map_append]

/-- Whether the scores of some items are in the order of numbers that they stand for. -/
def ScoredBy (compareScores : σ → σ → Ordering) (g : σ → Nat) (items : List (Scored σ)) : Prop :=
  ∀ a ∈ items, ∀ b ∈ items,
    compareScores a.score b.score = Ord.compare (g a.score) (g b.score)

variable {compareScores : σ → σ → Ordering} {g : σ → Nat} {items : List (Scored σ)}

/-- Sorting loses no item and repeats none. -/
theorem sort_perm {sorted : List (Scored σ)} (h : sort compareScores specs items = .ok sorted) :
    sorted.Perm items := by
  unfold sort at h
  simp only at h
  split at h
  · cases h
  · cases h
    exact sortRows_perm items (keys specs)

/-- The row of an item that can be sorted is no obstacle, whatever its score is. -/
theorem not_isFragile_of_sortable {ks : List Key} {a : Scored σ} (h : a.document.SortableBy ks) :
    (row ks a).isFragile = false := by
  rw [← isFragile_row_mapScore (g := fun _ => 0)]
  refine not_isFragile_row (fun k => Key.sorts_of_sortableBy ?_) (List.mem_singleton_self _)
  exact List.forall_mem_singleton.2 h

/-- The order of rows is the total one if the scores are in the order of numbers. -/
theorem order_row_of_scored {ks : List Key} {a b : Scored σ}
    (scored : compareScores a.score b.score = Ord.compare (g a.score) (g b.score))
    (ha : a.document.SortableBy ks) (hb : b.document.SortableBy ks) :
    (row ks a).order compareScores (row ks b) = scoredOrder g ks a b := by
  have sorts : ∀ k ∈ ks, k.Sorts [a.mapScore g, b.mapScore g] := by
    intro k
    exact Key.sorts_of_sortableBy (List.forall_mem_cons.2 ⟨ha, List.forall_mem_singleton.2 hb⟩)
  rw [← order_row_mapScore scored.symm]
  exact order_row sorts List.mem_cons_self (List.mem_cons_of_mem _ (List.mem_singleton_self _))

theorem sort_eq_ok_of_scored (scored : ScoredBy compareScores g items)
    (sortable : ∀ a ∈ items, a.document.SortableBy (keys specs)) :
    sort compareScores specs items =
      .ok (items.mergeSort fun a b => (scoredOrder g (keys specs) a b).isLE) := by
  refine sort_eq_ok_of_order ?_ ?_
  · intro a ha
    exact not_isFragile_of_sortable (sortable a ha)
  · intro a ha b hb
    exact order_row_of_scored (scored a ha b hb) (sortable a ha) (sortable b hb)

/-- Sorting by some keys and others after them is sorting by the others and then by the ones. -/
theorem sort_append (hfirst : first ≠ []) (hlast : last ≠ [])
    (scored : ScoredBy compareScores g items)
    (sortable : ∀ a ∈ items, a.document.SortableBy (keys (first ++ last))) :
    ∃ sorted, sort compareScores (first ++ last) items = .ok sorted ∧
      (sort compareScores last items >>= sort compareScores first) = .ok sorted := by
  have once := sort_eq_ok_of_scored scored sortable
  rw [keys_append hfirst hlast] at once sortable
  have inner := sort_eq_ok_of_scored scored fun a ha =>
    (sortable a ha).mono (List.subset_append_right _ (keys last))
  have perm := sort_perm inner
  have outer := sort_eq_ok_of_scored
    (fun a ha b hb => scored a (perm.mem_iff.1 ha) b (perm.mem_iff.1 hb))
    fun a ha => (sortable a (perm.mem_iff.1 ha)).mono (List.subset_append_left (keys first) _)
  refine ⟨_, once, ?_⟩
  rw [inner]
  refine outer.trans (congrArg Except.ok ?_)
  rw [mergeSort_mergeSort, scoredOrder_append]

/-- Sorting by several keys is sorting by each of them, from the last to the first. -/
theorem sort_eq_foldrM (h : specs ≠ []) (scored : ScoredBy compareScores g items)
    (sortable : ∀ a ∈ items, a.document.SortableBy (keys specs)) :
    sort compareScores specs items =
      specs.foldrM (fun spec => sort compareScores [spec]) items := by
  induction specs with
  | nil => exact absurd rfl h
  | cons spec specs ih =>
    rw [List.foldrM_cons]
    cases specs with
    | nil => rfl
    | cons next rest =>
      have sortable_rest : ∀ a ∈ items, a.document.SortableBy (keys (next :: rest)) := by
        intro a ha
        exact (sortable a ha).mono (List.subset_cons_self _ _)
      rw [← ih (List.cons_ne_nil _ _) sortable_rest]
      obtain ⟨sorted, once, twice⟩ := sort_append (List.cons_ne_nil spec [])
        (List.cons_ne_nil next rest) scored sortable
      exact once.trans twice.symm

/-! ## Scores that are doubles -/

/-- The place of a double among all doubles, counted from one that is less than all of them. -/
def placeOf (x : Float) : Nat := ((Double.rank? x).getD 0 + (twoTo 63 : Nat)).toNat

theorem neg_lt_rank (x : Float) : -(twoTo 63 : Nat) < (Double.rank? x).getD 0 := by
  have size : x.toBits.toNat % twoTo 63 < twoTo 63 := Nat.mod_lt _ (twoTo_pos 63)
  have positive := twoTo_pos 63
  unfold Double.rank?
  split
  · simp only [Option.getD_none]
    omega
  · simp only [Option.getD_some]
    split <;> omega

theorem placeOf_lt_iff (x y : Float) :
    placeOf x < placeOf y ↔ (Double.rank? x).getD 0 < (Double.rank? y).getD 0 := by
  have above := neg_lt_rank x
  have above' := neg_lt_rank y
  unfold placeOf
  omega

/-- Doubles that are numbers are in the order of their places. -/
theorem compareDoubles_eq_place {x y : Float} (hx : Double.isNotANumber x = false)
    (hy : Double.isNotANumber y = false) :
    compareDoubles x y = Ord.compare (placeOf x) (placeOf y) := by
  rw [Cell.compareDoubles_eq hx hy, Nat.compare_eq_ite_lt, Int.compare_eq_ite_lt]
  simp only [placeOf_lt_iff]

/-- Doubles that are numbers have the same place if and only if they are equal as numbers. -/
theorem placeOf_eq_iff {x y : Float} (hx : Double.isNotANumber x = false)
    (hy : Double.isNotANumber y = false) : placeOf x = placeOf y ↔ Double.eq x y = true := by
  obtain ⟨i, hi⟩ := Double.exists_rank hx
  obtain ⟨j, hj⟩ := Double.exists_rank hy
  have less := placeOf_lt_iff x y
  have more := placeOf_lt_iff y x
  rw [hi, hj, Option.getD_some, Option.getD_some] at less more
  rw [Double.eq, Double.compares_of_rank _ hi hj, decide_eq_true_iff]
  omega

/-- Sorting by several keys is sorting by any of the last of them and then by those before, or by
each of them from the last to the first; no sorting loses or repeats an item. -/
theorem sort_iterates {first last : List SortSpec} {items : List (Scored Float)}
    (hfirst : first ≠ []) (hlast : last ≠ [])
    (scores : ∀ a ∈ items, Double.isNotANumber a.score = false)
    (sortable : ∀ a ∈ items, a.document.SortableBy (keys (first ++ last))) :
    (∃ sorted, sort compareDoubles (first ++ last) items = .ok sorted ∧
      (sort compareDoubles last items >>= sort compareDoubles first) = .ok sorted ∧
      (first ++ last).foldrM (fun spec => sort compareDoubles [spec]) items = .ok sorted) ∧
    ∀ specs sorted, sort compareDoubles specs items = .ok sorted → sorted.Perm items := by
  have scored : ScoredBy compareDoubles placeOf items := fun a ha b hb =>
    compareDoubles_eq_place (scores a ha) (scores b hb)
  obtain ⟨sorted, once, twice⟩ := sort_append hfirst hlast scored sortable
  have each := sort_eq_foldrM (List.append_ne_nil_of_left_ne_nil hfirst last) scored sortable
  exact ⟨⟨sorted, once, twice, each.symm.trans once⟩, fun _ _ => sort_perm⟩

namespace Drafts

/-- An order without dates and notes. -/
def draft (number : String) (amount : Float) : Document :=
  { (default : Document) with id := number, orderNumber := number, totalAmount := amount }

/-- Three orders, two of them of one amount and two of one score. -/
def all : List (Scored Float) := [⟨draft "b" 20, 0.5⟩, ⟨draft "B" 30, 1⟩, ⟨draft "a" 20, 1⟩]

theorem sortable_draft (ks : List Key) {number : String} {amount : Float}
    (isNumber : Double.isNotANumber amount = false) (noNul : '\x00' ∉ number.toList) :
    (draft number amount).SortableBy ks where
  regular := ⟨isNumber, by rintro _ ⟨⟩, by rintro _ ⟨⟩⟩
  noNul k _ f _ s hs := by
    have empty : '\x00' ∉ "".toList := by decide
    cases f <;> cases hs
    case orderNumber => exact noNul
    all_goals exact empty

theorem sortable (specs : List SortSpec) :
    ∀ a ∈ all, a.document.SortableBy (keys specs) := by
  refine List.forall_mem_cons.2 ⟨?_, List.forall_mem_cons.2 ⟨?_, List.forall_mem_singleton.2 ?_⟩⟩
  · exact sortable_draft _ (by decide) (by decide)
  · exact sortable_draft _ (by decide) (by decide)
  · exact sortable_draft _ (by decide) (by decide)

end Drafts

/-- Orders sorted by relevance, an unknown field, their amounts and their numbers, in two rounds. -/
theorem sort_iterates_drafts :
    (∀ a ∈ Drafts.all, Double.isNotANumber a.score = false) ∧
      ∃ sorted, (sort compareDoubles [⟨"totalAmount", .descending⟩, ⟨"orderNumber", .ascending⟩]
          Drafts.all >>=
            sort compareDoubles [⟨"relevance", .descending⟩, ⟨"colour", .ascending⟩]) =
          .ok sorted ∧
        sorted.Perm Drafts.all := by
  have scores : ∀ a ∈ Drafts.all, Double.isNotANumber a.score = false := by decide +kernel
  obtain ⟨⟨sorted, once, twice, -⟩, perm⟩ := sort_iterates
    (List.cons_ne_nil ⟨relevanceName, .descending⟩ [⟨"colour", .ascending⟩])
    (List.cons_ne_nil ⟨"totalAmount", .descending⟩ [⟨"orderNumber", .ascending⟩]) scores
    (Drafts.sortable _)
  exact ⟨scores, sorted, twice, perm _ sorted once⟩

end Sorting

end OrderRetrieval

import OrderRetrieval.Proofs.Facet.Count
import OrderRetrieval.Proofs.Sorting.Iterated

/-!
# Comparing items by several keys

`compareItems` compares two items under the keys of a query; sorting asks of its answer whether the
one item stands before the other (`Row.before_eq`).  Items that can be sorted can all be compared,
and the answer is that of an order that is total on all items (`compareItems_eq_ok`).  Two of them
tie if and only if they hold equal values under every key (`scoredOrder_eq_eq_iff`).

So the comparison is a total preorder, and there is only one way to arrange items by it in which
those that tie keep their order.  That is what sorting gives (`compareItems_preorder`).
-/

namespace OrderRetrieval

/-- Whether an item can be sorted by the keys of a query: its score is a number, and its document
can be sorted by them. -/
structure Scored.SortableBy (specs : List SortSpec) (a : Scored Float) : Prop where
  score : Double.isNotANumber a.score = false
  document : a.document.SortableBy (Sorting.keys specs)

namespace Sorting

/-! ## Comparing rows and items -/

section Rows

variable {σ : Type} {compareScores : σ → σ → Ordering}

/-- How two rows compare, unless something keeps them from being compared. -/
def Row.comparison (compareScores : σ → σ → Ordering) (a b : Row σ) : Except Failure Ordering :=
  match a.obstacle? compareScores b with
  | some e => .error e
  | none => .ok (a.order compareScores b)

theorem Row.before_eq (a b : Row σ) :
    Row.before compareScores a b = (Row.comparison compareScores a b).map (· == .lt) := by
  unfold before comparison
  cases a.obstacle? compareScores b with
  | some e => rfl
  | none => rfl

/-- Rows without failures and NULs can be compared. -/
theorem Row.obstacle?_eq_none {a b : Row σ} (ha : a.isFragile = false) (hb : b.isFragile = false) :
    a.obstacle? compareScores b = none := by
  induction a generalizing b with
  | nil => rfl
  | cons cell a ih =>
    obtain ⟨descending, found⟩ := cell
    cases b with
    | nil => cases found <;> rfl
    | cons cell' b =>
      obtain ⟨direction, found'⟩ := cell'
      simp only [isFragile, List.any_cons, Bool.or_eq_false_iff] at ha hb
      cases found with
      | error e => cases ha.1
      | ok c =>
        cases found' with
        | error e => cases hb.1
        | ok c' =>
          have noNul : c.hasNul = false := ha.1
          have noNul' : c'.hasNul = false := hb.1
          simp only [obstacle?, noNul, noNul', Bool.or_self, Bool.and_false, Bool.false_eq_true,
            if_false]
          split
          · exact ih ha.2 hb.2
          · rfl

end Rows

/-- How two items compare under the keys of a query, unless they cannot be compared. -/
def compareItems (specs : List SortSpec) (a b : Scored Float) : Except Failure Ordering :=
  Row.comparison compareDoubles (row (keys specs) a) (row (keys specs) b)

/-- Whether an item can be compared with another and does not come after it. -/
def isAtMost (specs : List SortSpec) (a b : Scored Float) : Bool :=
  (compareItems specs a b).toOption.any Ordering.isLE

/-- Whether an item can be compared with another and ties with it. -/
def isTied (specs : List SortSpec) (a b : Scored Float) : Bool :=
  (compareItems specs a b).toOption.any Ordering.isEq

/-- Whether two items hold equal values under a key.  A missing value equals a missing one. -/
def Key.Ties (k : Key) (a b : Scored Float) : Prop :=
  match k.subject with
  | .relevance => Double.eq a.score b.score = true
  | .field f => ∃ v w, a.document.key f = .ok v ∧ b.document.key f = .ok w ∧ v.sameKey w = true

/-- Whether a list holds some items in the order of the comparison, and those that tie in the order
in which they were given. -/
structure Arranged (specs : List SortSpec) (items l : List (Scored Float)) : Prop where
  perm : l.Perm items
  ordered : l.Pairwise fun a b => isAtMost specs a b = true
  ties : ∀ a ∈ items, l.filter (isTied specs a) = items.filter (isTied specs a)

/-! ## Which items tie -/

namespace Cell

theorem isMissing_eq (a : Cell Nat) : a.isMissing = (a.kind == 0) := by
  cases a <;> rfl

/-- Of cells that tie both are missing or neither is. -/
theorem isMissing_eq_of_grade {a b : Cell Nat} (h : grade a b = .eq) :
    a.isMissing = b.isMissing := by
  have kinds : a.kind = b.kind := Std.compare_eq_iff_eq.1 (Ordering.then_eq_eq.1 h).1
  rw [isMissing_eq, isMissing_eq, kinds]

/-- Cells that tie in one direction tie in the other. -/
theorem directed_eq_eq_iff (descending : Bool) (a b : Cell Nat) :
    directed descending a b = .eq ↔ grade a b = .eq := by
  have either : (if descending then grade b a else grade a b) = .eq ↔ grade a b = .eq := by
    cases descending with
    | true =>
      show grade b a = .eq ↔ grade a b = .eq
      exact Std.OrientedCmp.eq_comm
    | false => exact Iff.rfl
  rw [directed_eq, Ordering.then_eq_eq, either, Std.compare_eq_iff_eq]
  exact and_iff_right_of_imp isMissing_eq_of_grade

/-- A present value neither ties with a missing one nor equals it. -/
theorem grade_missing_iff {v : Value} :
    grade .missing (.ofValue v) = .eq ↔ Value.missing.sameKey v = true := by
  by_cases h : v = .missing
  · subst h
    exact iff_of_true Std.ReflCmp.compare_self rfl
  · refine iff_of_false ?_ ?_
    · intro eq
      have missing : true = (ofValue v : Cell Nat).isMissing := isMissing_eq_of_grade eq
      rw [isMissing_ofValue h] at missing
      cases missing
    · cases v with
      | missing => exact absurd rfl h
      | text _ | amount _ | moment _ | blob _ => exact Bool.false_ne_true

/-- The cells of values of one kind tie if and only if the values are equal. -/
theorem grade_eq_eq_iff {kind : FieldKind} {v w : Value} (hv : v.IsKeyOf kind)
    (hw : w.IsKeyOf kind) : grade (.ofValue v) (.ofValue w) = .eq ↔ v.sameKey w = true := by
  by_cases v_eq : v = .missing
  · subst v_eq
    exact grade_missing_iff
  by_cases w_eq : w = .missing
  · subst w_eq
    rw [Value.sameKey_comm, ← grade_missing_iff]
    exact Std.OrientedCmp.eq_comm
  cases kind with
  | numeric =>
    obtain ⟨x, rfl, hx⟩ := hv
    obtain ⟨y, rfl, hy⟩ := hw
    obtain ⟨i, hi⟩ := Double.exists_rank hx
    obtain ⟨j, hj⟩ := Double.exists_rank hy
    rw [ofValue, ofValue, grade_amount, Std.compare_eq_iff_eq]
    simp [Value.sameKey, Double.eq, Double.compares_of_rank _ hi hj, hi, hj]
  | date =>
    obtain ⟨m, rfl⟩ := hv.resolve_left v_eq
    obtain ⟨n, rfl⟩ := hw.resolve_left w_eq
    rw [ofValue, ofValue, grade_moment, Std.compare_eq_iff_eq]
    simp [Value.sameKey]
  | string | nestedPath | enumeration | json =>
    obtain ⟨s, rfl⟩ := hv.resolve_left v_eq
    obtain ⟨t, rfl⟩ := hw.resolve_left w_eq
    rw [ofValue, ofValue, grade_text, Ordering.then_eq_eq, Std.compare_eq_iff_eq,
      Std.compare_eq_iff_eq]
    -- Texts that are the same have the same folded form.
    simpa [Value.sameKey] using fun eq : s = t => congrArg Text.fold eq

end Cell

section Items

variable {specs : List SortSpec} {a b : Scored Float} {items l : List (Scored Float)}

/-- Items tie under a key if and only if they hold equal values. -/
theorem Key.order_eq_eq_iff (k : Key) (ha : a.SortableBy specs) (hb : b.SortableBy specs) :
    k.order (a.mapScore placeOf) (b.mapScore placeOf) = .eq ↔ k.Ties a b := by
  rw [Key.order, Cell.directed_eq_eq_iff]
  unfold Key.Ties Key.cellOf Key.cell
  cases k.subject with
  | relevance =>
    have cells : Cell.grade (.relevance (placeOf a.score)) (.relevance (placeOf b.score)) = .eq ↔
        placeOf a.score = placeOf b.score := by
      rw [Cell.grade_relevance]
      exact Std.compare_eq_iff_eq
    exact cells.trans (placeOf_eq_iff ha.score hb.score)
  | field f =>
    obtain ⟨v, hv, kv⟩ := ha.document.regular.key f
    obtain ⟨w, hw, kw⟩ := hb.document.regular.key f
    simp only [Scored.document_mapScore, hv, hw, Except.map]
    rw [Cell.grade_eq_eq_iff kv kw]
    constructor
    · intro same
      exact ⟨v, w, rfl, rfl, same⟩
    · rintro ⟨v', w', hv', hw', same⟩
      cases hv'
      cases hw'
      exact same

theorem keysOrder_eq_eq_iff {ks : List Key} {a b : Scored Nat} :
    keysOrder ks a b = .eq ↔ ∀ k ∈ ks, k.order a b = .eq := by
  induction ks with
  | nil => simp [keysOrder]
  | cons k ks ih => rw [keysOrder, compareLex, Ordering.then_eq_eq, ih, List.forall_mem_cons]

/-- Items tie if and only if they hold equal values under every key. -/
theorem scoredOrder_eq_eq_iff (ha : a.SortableBy specs) (hb : b.SortableBy specs) :
    scoredOrder placeOf (keys specs) a b = .eq ↔ ∀ k ∈ keys specs, k.Ties a b := by
  rw [scoredOrder, keysOrder_eq_eq_iff]
  exact forall₂_congr fun k _ => k.order_eq_eq_iff ha hb

/-! ## The order of the comparison -/

/-- Items that can be sorted can be compared, by a total order. -/
theorem compareItems_eq_ok (ha : a.SortableBy specs) (hb : b.SortableBy specs) :
    compareItems specs a b = .ok (scoredOrder placeOf (keys specs) a b) := by
  have free : (row (keys specs) a).obstacle? compareDoubles (row (keys specs) b) = none :=
    Row.obstacle?_eq_none (not_isFragile_of_sortable ha.document)
      (not_isFragile_of_sortable hb.document)
  have scored : compareDoubles a.score b.score = Ord.compare (placeOf a.score) (placeOf b.score) :=
    compareDoubles_eq_place ha.score hb.score
  rw [compareItems, Row.comparison, free]
  exact congrArg Except.ok (order_row_of_scored scored ha.document hb.document)

theorem isAtMost_eq (ha : a.SortableBy specs) (hb : b.SortableBy specs) :
    isAtMost specs a b = (scoredOrder placeOf (keys specs) a b).isLE := by
  rw [isAtMost, compareItems_eq_ok ha hb]
  rfl

theorem isTied_eq (ha : a.SortableBy specs) (hb : b.SortableBy specs) :
    isTied specs a b = (scoredOrder placeOf (keys specs) a b).isEq := by
  rw [isTied, compareItems_eq_ok ha hb]
  rfl

/-- What ties with an item is told by the total order. -/
theorem filter_isTied (sortable : ∀ b ∈ items, b.SortableBy specs) (ha : a.SortableBy specs) :
    items.filter (isTied specs a) =
      items.filter fun b => (scoredOrder placeOf (keys specs) a b).isEq :=
  List.filter_congr fun b hb => isTied_eq ha (sortable b hb)

/-- A list is arranged by the comparison if and only if it is what sorting by the total order
gives. -/
theorem arranged_iff (sortable : ∀ a ∈ items, a.SortableBy specs) :
    Arranged specs items l ↔
      l = items.mergeSort fun a b => (scoredOrder placeOf (keys specs) a b).isLE := by
  have members (perm : l.Perm items) : ∀ a ∈ l, a.SortableBy specs :=
    fun a ha => sortable a (perm.mem_iff.1 ha)
  have ordered (perm : l.Perm items) : (l.Pairwise fun a b => isAtMost specs a b = true) ↔
      l.Pairwise fun a b => (scoredOrder placeOf (keys specs) a b).isLE = true := by
    refine List.Pairwise.iff_of_mem fun ha hb => ?_
    rw [isAtMost_eq (members perm _ ha) (members perm _ hb)]
  have ties (perm : l.Perm items) :
      (∀ a ∈ items, l.filter (isTied specs a) = items.filter (isTied specs a)) ↔
        ∀ a ∈ items, (l.filter fun b => (scoredOrder placeOf (keys specs) a b).isEq) =
          items.filter fun b => (scoredOrder placeOf (keys specs) a b).isEq := by
    refine forall₂_congr fun a ha => ?_
    rw [filter_isTied (members perm) (sortable a ha), filter_isTied sortable (sortable a ha)]
  rw [eq_mergeSort_iff]
  constructor
  · intro h
    exact ⟨h.perm, (ordered h.perm).1 h.ordered, (ties h.perm).1 h.ties⟩
  · rintro ⟨perm, sorted, kept⟩
    exact ⟨perm, (ordered perm).2 sorted, (ties perm).2 kept⟩

/-- Among items that can be sorted the comparison is a total preorder: exchanging two items turns
its answer round, it is transitive, and two items tie if and only if they hold equal values under
every key.  So there is only one list of the items that is in order and keeps the order of those
that tie, and sorting gives it. -/
theorem compareItems_preorder (sortable : ∀ a ∈ items, a.SortableBy specs) :
    (∀ a ∈ items, ∀ b ∈ items, ∃ o, compareItems specs a b = .ok o ∧
      compareItems specs b a = .ok o.swap ∧ (o = .eq ↔ ∀ k ∈ keys specs, k.Ties a b)) ∧
    (∀ a ∈ items, ∀ b ∈ items, ∀ c ∈ items, isAtMost specs a b = true →
      isAtMost specs b c = true → isAtMost specs a c = true) ∧
    ∃ sorted, sort compareDoubles specs items = .ok sorted ∧
      ∀ l, Arranged specs items l ↔ l = sorted := by
  refine ⟨?_, ?_, ?_⟩
  · intro a ha b hb
    have first := sortable a ha
    have second := sortable b hb
    refine ⟨_, compareItems_eq_ok first second, ?_, scoredOrder_eq_eq_iff first second⟩
    rw [compareItems_eq_ok second first]
    exact congrArg Except.ok Std.OrientedCmp.eq_swap
  · intro a ha b hb c hc ab bc
    rw [isAtMost_eq (sortable a ha) (sortable b hb)] at ab
    rw [isAtMost_eq (sortable b hb) (sortable c hc)] at bc
    rw [isAtMost_eq (sortable a ha) (sortable c hc)]
    exact Std.TransCmp.isLE_trans ab bc
  · have scored : ScoredBy compareDoubles placeOf items := fun a ha b hb =>
      compareDoubles_eq_place (sortable a ha).score (sortable b hb).score
    have sorts := sort_eq_ok_of_scored scored fun a ha => (sortable a ha).document
    exact ⟨_, sorts, fun l => arranged_iff sortable⟩

end Items

/-- Orders of one amount and without dates tie by an unknown field and by their amounts, and there
is only one arrangement of the drafts by these keys. -/
theorem compareItems_preorder_drafts :
    let specs : List SortSpec := [⟨"colour", .ascending⟩, ⟨"totalAmount", .descending⟩]
    (∀ a ∈ Drafts.all, a.SortableBy specs) ∧
      compareItems specs ⟨Drafts.draft "b" 20, 0.5⟩ ⟨Drafts.draft "a" 20, 1⟩ = .ok .eq ∧
      ∃ sorted, sort compareDoubles specs Drafts.all = .ok sorted ∧
        ∀ l, Arranged specs Drafts.all l ↔ l = sorted := by
  intro specs
  have scores : ∀ a ∈ Drafts.all, Double.isNotANumber a.score = false := by decide +kernel
  have sortable : ∀ a ∈ Drafts.all, a.SortableBy specs :=
    fun a ha => ⟨scores a ha, Drafts.sortable specs a ha⟩
  obtain ⟨pairs, -, arranged⟩ := compareItems_preorder sortable
  obtain ⟨o, compared, -, tie⟩ := pairs ⟨Drafts.draft "b" 20, 0.5⟩ (by simp [Drafts.all])
    ⟨Drafts.draft "a" 20, 1⟩ (by simp [Drafts.all])
  have ks : keys specs = [⟨.field .createdAt, true⟩, ⟨.field .totalAmount, true⟩] := by decide
  have ties : ∀ k ∈ keys specs, k.Ties ⟨Drafts.draft "b" 20, 0.5⟩ ⟨Drafts.draft "a" 20, 1⟩ := by
    rw [ks, List.forall_mem_cons, List.forall_mem_singleton]
    exact ⟨⟨.missing, .missing, rfl, rfl, rfl⟩, ⟨.amount 20, .amount 20, rfl, rfl, by decide⟩⟩
  obtain rfl := tie.2 ties
  exact ⟨sortable, compared, arranged⟩

end Sorting

end OrderRetrieval

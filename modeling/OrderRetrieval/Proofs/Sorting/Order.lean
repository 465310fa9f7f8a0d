import OrderRetrieval.Proofs.Document.Regular
import OrderRetrieval.Proofs.Sorting.Stable
import OrderRetrieval.Sorting.Basic

/-!
# The order of sorted documents

What it means that one item stands before another: under one key (`Key.Before`), where a missing
value comes last in either direction, and under several keys in turn (`Precedes`), with some
relation to settle what the keys leave open.

The cells of regular documents under one key are all missing or of one kind, so comparing them
agrees with a total order on all cells (`Cell.order_eq_directed`).  That makes the order of rows a
total one (`order_row`), which sorting needs, and sorting items by keys gives the items that stand
before one another in the sense of `Precedes` (`sort_precedes`).
-/

namespace OrderRetrieval

/-- Whether a value is less than another of its kind: texts by their case-folded forms and then as
they are, numbers and moments by size. -/
def Value.Less : Value → Value → Prop
  | .text s, .text t => Text.fold s < Text.fold t ∨ (Text.fold s = Text.fold t ∧ s < t)
  | .amount x, .amount y => Double.lt x y = true
  | .moment m, .moment n => m.micros < n.micros
  | _, _ => False

/-- Whether a value stands before another in a direction.  What is missing stands last in either. -/
def Value.StandsBefore (descending : Bool) (v w : Value) : Prop :=
  v ≠ .missing ∧ (w = .missing ∨ if descending then w.Less v else v.Less w)

namespace Sorting

/-- Whether an item stands before another under a key. -/
def Key.Before (k : Key) (a b : Scored Nat) : Prop :=
  match k.subject with
  | .relevance => if k.descending then b.score < a.score else a.score < b.score
  | .field f => ∃ v w, a.document.key f = .ok v ∧ b.document.key f = .ok w ∧
      v.StandsBefore k.descending w

/-- Whether an item precedes another under some keys in turn, and by a relation if all keys leave it
open. -/
def Precedes (rest : Scored Nat → Scored Nat → Prop) : List Key → Scored Nat → Scored Nat → Prop
  | [], a, b => rest a b
  | k :: ks, a, b => k.Before a b ∨ (¬k.Before b a ∧ Precedes rest ks a b)

/-! ## A total order of cells -/

namespace Cell

/-- The kinds of cells, numbered. -/
def kind : Cell Nat → Nat
  | .missing => 0
  | .text _ _ => 1
  | .amount _ => 2
  | .moment _ => 3
  | .relevance _ => 4

/-- The case-folded text of a cell. -/
def folded : Cell Nat → String
  | .text s _ => s
  | _ => ""

/-- The text of a cell. -/
def plain : Cell Nat → String
  | .text _ s => s
  | _ => ""

/-- The place of the amount of a cell among all numbers. -/
def rank : Cell Nat → Int
  | .amount x => (Double.rank? x).getD 0
  | _ => 0

/-- The moment or the score of a cell. -/
def natural : Cell Nat → Nat
  | .moment m => m
  | .relevance n => n
  | _ => 0

/-- Cells by kind, and those of a kind by what they hold. -/
def grade : Cell Nat → Cell Nat → Ordering :=
  compareLex (compareOn kind) (compareLex (compareOn folded) (compareLex (compareOn plain)
    (compareLex (compareOn rank) (compareOn natural))))

instance : Std.TransCmp grade := by
  unfold grade
  infer_instance

theorem grade_text (f p g q : String) :
    grade (.text f p) (.text g q) = (Ord.compare f g).then (Ord.compare p q) := by
  simp [grade, compareLex, compareOn, kind, folded, plain, rank, natural]

theorem grade_amount (x y : Float) :
    grade (.amount x) (.amount y) =
      Ord.compare ((Double.rank? x).getD 0) ((Double.rank? y).getD 0) := by
  simp [grade, compareLex, compareOn, kind, folded, plain, rank, natural]

theorem grade_moment (m n : Nat) : grade (.moment m) (.moment n) = Ord.compare m n := by
  simp [grade, compareLex, compareOn, kind, folded, plain, rank, natural]

theorem grade_relevance (m n : Nat) : grade (.relevance m) (.relevance n) = Ord.compare m n := by
  simp [grade, compareLex, compareOn, kind, folded, plain, rank, natural]

/-- Cells in a direction, those that are missing last. -/
def directed : Bool → Cell Nat → Cell Nat → Ordering
  | true => compareLex (compareOn isMissing) fun a b => grade b a
  | false => compareLex (compareOn isMissing) grade

instance (descending : Bool) : Std.TransCmp (directed descending) := by
  unfold directed
  cases descending <;> infer_instance

/-- Whether two cells can stand under one key: they are of one kind, unless one is missing. -/
def Comparable : Cell Nat → Cell Nat → Prop
  | .missing, _ | _, .missing => True
  | .text _ _, .text _ _ | .moment _, .moment _ | .relevance _, .relevance _ => True
  | .amount x, .amount y => Double.isNotANumber x = false ∧ Double.isNotANumber y = false
  | _, _ => False

theorem compareDoubles_eq {x y : Float} (hx : Double.isNotANumber x = false)
    (hy : Double.isNotANumber y = false) :
    compareDoubles x y = Ord.compare ((Double.rank? x).getD 0) ((Double.rank? y).getD 0) := by
  obtain ⟨i, hi⟩ := Double.exists_rank hx
  obtain ⟨j, hj⟩ := Double.exists_rank hy
  simp only [compareDoubles, Double.lt, Double.compares_of_rank _ hi hj,
    Double.compares_of_rank _ hj hi, hi, hj, Option.getD_some, decide_eq_true_eq]
  rcases Int.lt_trichotomy i j with h | rfl | h
  · rw [if_pos h]
    exact (Std.compare_eq_lt.2 h).symm
  · rw [if_neg (Int.lt_irrefl i), if_neg (Int.lt_irrefl i)]
    exact Std.ReflOrd.compare_self.symm
  · rw [if_neg (Int.lt_asymm h), if_pos h]
    exact (Std.compare_eq_gt.2 h).symm

/-- Cells of one kind are compared by what they hold. -/
theorem compare_eq_grade {a b : Cell Nat} (h : Comparable a b) (ha : a.isMissing = false)
    (hb : b.isMissing = false) : a.compare Ord.compare b = grade a b := by
  cases a with
  | missing => cases ha
  | text f p =>
    cases b with
    | missing => cases hb
    | text g q => exact (grade_text f p g q).symm
    | amount _ => exact False.elim h
    | moment _ => exact False.elim h
    | relevance _ => exact False.elim h
  | amount x =>
    cases b with
    | missing => cases hb
    | amount y =>
      rw [grade_amount]
      exact compareDoubles_eq h.1 h.2
    | text _ _ => exact False.elim h
    | moment _ => exact False.elim h
    | relevance _ => exact False.elim h
  | moment m =>
    cases b with
    | missing => cases hb
    | moment n => exact (grade_moment m n).symm
    | text _ _ => exact False.elim h
    | amount _ => exact False.elim h
    | relevance _ => exact False.elim h
  | relevance m =>
    cases b with
    | missing => cases hb
    | relevance n => exact (grade_relevance m n).symm
    | text _ _ => exact False.elim h
    | amount _ => exact False.elim h
    | moment _ => exact False.elim h

theorem isMissing_iff {a : Cell Nat} : a.isMissing = true ↔ a = .missing := by
  cases a <;> simp [isMissing]

theorem directed_eq (descending : Bool) (a b : Cell Nat) :
    directed descending a b = (Ord.compare a.isMissing b.isMissing).then
      (if descending then grade b a else grade a b) := by
  cases descending <;> rfl

/-- The order of cells of one kind is the total one. -/
theorem order_eq_directed (descending : Bool) {a b : Cell Nat} (h : Comparable a b) :
    a.order Ord.compare descending b = directed descending a b := by
  unfold Cell.order
  cases ha : a.isMissing with
  | true =>
    obtain rfl := isMissing_iff.1 ha
    cases hb : b.isMissing with
    | true =>
      obtain rfl := isMissing_iff.1 hb
      exact (@Std.ReflCmp.compare_self _ (directed descending) _ _).symm
    | false =>
      rw [directed_eq, ha, hb]
      rfl
  | false =>
    cases hb : b.isMissing with
    | true =>
      rw [directed_eq, ha, hb]
      rfl
    | false =>
      have eq : a.compare Ord.compare b = grade a b := compare_eq_grade h ha hb
      rw [directed_eq, ha, hb]
      cases descending with
      | true =>
        show (a.compare Ord.compare b).swap = grade b a
        rw [eq]
        exact Std.OrientedCmp.eq_swap.symm
      | false => exact eq

end Cell

/-! ## The order of items -/

/-- The cell of an item under a key, a missing one if there is none. -/
def Key.cellOf (k : Key) (a : Scored Nat) : Cell Nat :=
  match k.cell a with
  | .ok c => c
  | .error _ => .missing

/-- Items under a key. -/
def Key.order (k : Key) (a b : Scored Nat) : Ordering :=
  Cell.directed k.descending (k.cellOf a) (k.cellOf b)

instance (k : Key) : Std.TransCmp k.order where
  eq_swap {a b} :=
    @Std.OrientedCmp.eq_swap _ (Cell.directed k.descending) _ (k.cellOf a) (k.cellOf b)
  isLE_trans {a b c} :=
    @Std.TransCmp.isLE_trans _ (Cell.directed k.descending) _ (k.cellOf a) (k.cellOf b) (k.cellOf c)

/-- Items under some keys in turn. -/
def keysOrder : List Key → Scored Nat → Scored Nat → Ordering
  | [] => fun _ _ => .eq
  | k :: ks => compareLex k.order (keysOrder ks)

instance keysOrder_transCmp : (ks : List Key) → Std.TransCmp (keysOrder ks)
  | [] => { eq_swap := rfl, isLE_trans := fun _ _ => rfl }
  | k :: ks => by
    have ih : Std.TransCmp (keysOrder ks) := keysOrder_transCmp ks
    exact inferInstanceAs (Std.TransCmp (compareLex k.order (keysOrder ks)))

end Sorting

/-! ## Items that can be sorted -/

/-- Whether a document can be sorted by some keys: it is regular, and no text that it has under one
of them holds a NUL. -/
structure Document.SortableBy (ks : List Sorting.Key) (d : Document) : Prop where
  regular : d.Regular
  noNul : ∀ k ∈ ks, ∀ f, k.subject = .field f → ∀ s, d.key f = .ok (.text s) → '\x00' ∉ s.toList

theorem Value.not_isKeyOf_blob (kind : FieldKind) (b : Blob) : ¬(Value.blob b).IsKeyOf kind := by
  cases kind <;> simp [IsKeyOf]

namespace Sorting

section Items

variable {a b : Scored Nat} {items : List (Scored Nat)}

/-- Values of one kind can stand under one key. -/
theorem Cell.comparable_ofValue {kind : FieldKind} {v w : Value} (hv : v.IsKeyOf kind)
    (hw : w.IsKeyOf kind) : Comparable (.ofValue v) (.ofValue w) := by
  cases kind with
  | numeric =>
    obtain ⟨x, rfl, hx⟩ := hv
    obtain ⟨y, rfl, hy⟩ := hw
    exact ⟨hx, hy⟩
  | date =>
    rcases hv with rfl | ⟨m, rfl⟩
    · trivial
    · rcases hw with rfl | ⟨n, rfl⟩ <;> trivial
  | string | nestedPath | enumeration | json =>
    rcases hv with rfl | ⟨s, rfl⟩
    · trivial
    · rcases hw with rfl | ⟨t, rfl⟩ <;> trivial

/-- Whether some items can be compared under a key: each has a cell, without a NUL, and the cells
are of one kind unless they are missing. -/
structure Key.Sorts (k : Key) (items : List (Scored Nat)) : Prop where
  cell_eq_ok : ∀ a ∈ items, k.cell a = .ok (k.cellOf a)
  not_hasNul : ∀ a ∈ items, (k.cellOf a).hasNul = false
  comparable : ∀ a ∈ items, ∀ b ∈ items, Cell.Comparable (k.cellOf a) (k.cellOf b)

theorem Key.cell_eq_ok (k : Key) (ha : a.document.Regular) : k.cell a = .ok (k.cellOf a) := by
  unfold Key.cellOf Key.cell
  cases k.subject with
  | relevance => rfl
  | field f =>
    obtain ⟨v, hv, -⟩ := ha.key f
    simp only [hv, Except.map]

theorem Key.comparable (k : Key) (ha : a.document.Regular) (hb : b.document.Regular) :
    Cell.Comparable (k.cellOf a) (k.cellOf b) := by
  unfold Key.cellOf Key.cell
  cases k.subject with
  | relevance => trivial
  | field f =>
    obtain ⟨v, hv, kv⟩ := ha.key f
    obtain ⟨w, hw, kw⟩ := hb.key f
    simp only [hv, hw, Except.map]
    exact Cell.comparable_ofValue kv kw

theorem Key.not_hasNul_cellOf {k : Key} {ks : List Key} (hk : k ∈ ks)
    (ha : a.document.SortableBy ks) : (k.cellOf a).hasNul = false := by
  unfold Key.cellOf Key.cell
  cases hf : k.subject with
  | relevance => rfl
  | field f =>
    obtain ⟨v, hv, kv⟩ := ha.regular.key f
    simp only [hv, Except.map]
    cases v with
    | text s =>
      have noNul : '\x00' ∉ s.toList := ha.noNul k hk f hf s hv
      simpa [Cell.ofValue, Cell.hasNul] using noNul
    | blob b => exact absurd kv (Value.not_isKeyOf_blob f.kind b)
    | missing | amount _ | moment _ => rfl

/-- Documents that can be sorted by some keys can be compared under each of them. -/
theorem Key.sorts_of_sortableBy {ks : List Key} (h : ∀ a ∈ items, a.document.SortableBy ks)
    {k : Key} (hk : k ∈ ks) : k.Sorts items where
  cell_eq_ok a ha := k.cell_eq_ok (h a ha).regular
  not_hasNul a ha := Key.not_hasNul_cellOf hk (h a ha)
  comparable a ha b hb := k.comparable (h a ha).regular (h b hb).regular

/-- The order of rows that can be compared is the total one. -/
theorem order_row {ks : List Key} (h : ∀ k ∈ ks, k.Sorts items) (ha : a ∈ items) (hb : b ∈ items) :
    (row ks a).order Ord.compare (row ks b) = keysOrder ks a b := by
  induction ks with
  | nil => rfl
  | cons k ks ih =>
    obtain ⟨sorts, rest⟩ := List.forall_mem_cons.1 h
    have first : (k.cellOf a).order Ord.compare k.descending (k.cellOf b) = k.order a b :=
      Cell.order_eq_directed k.descending (sorts.comparable a ha b hb)
    simp only [row, List.map_cons, sorts.cell_eq_ok a ha, sorts.cell_eq_ok b hb, Row.order,
      keysOrder, compareLex]
    rw [first]
    exact congrArg _ (ih rest)

/-- The row of an item that can be compared is no obstacle. -/
theorem not_isFragile_row {ks : List Key} (h : ∀ k ∈ ks, k.Sorts items) (ha : a ∈ items) :
    (row ks a).isFragile = false := by
  unfold Row.isFragile row
  rw [List.any_map, List.any_eq_false]
  intro k hk
  simp only [Function.comp_apply, (h k hk).cell_eq_ok a ha, (h k hk).not_hasNul a ha]
  exact Bool.false_ne_true

end Items

/-- Sorting items whose rows are no obstacles is sorting them by the order that the rows are in. -/
theorem sort_eq_ok_of_order {σ : Type} {compareScores : σ → σ → Ordering} {specs : List SortSpec}
    {items : List (Scored σ)} {cmp : Scored σ → Scored σ → Ordering}
    (solid : ∀ a ∈ items, (row (keys specs) a).isFragile = false)
    (agree : ∀ a ∈ items, ∀ b ∈ items,
      (row (keys specs) a).order compareScores (row (keys specs) b) = cmp a b) :
    sort compareScores specs items = .ok (items.mergeSort fun a b => (cmp a b).isLE) := by
  have rows : ((items.map fun a => (row (keys specs) a, a)).map Prod.fst).any Row.isFragile =
      false := by
    rw [List.any_eq_false]
    intro r hr
    obtain ⟨p, hp, rfl⟩ := List.mem_map.1 hr
    obtain ⟨a, ha, rfl⟩ := List.mem_map.1 hp
    rw [solid a ha]
    exact Bool.false_ne_true
  have free : obstacle? compareScores ((items.map fun a => (row (keys specs) a, a)).map Prod.fst) =
      none := by
    rw [obstacle?, rows]
    rfl
  simp only [sort, free]
  refine congrArg Except.ok ?_
  have mapped : (items.mergeSort fun a b => (cmp a b).isLE).map
      (fun a => (row (keys specs) a, a)) =
        (items.map fun a => (row (keys specs) a, a)).mergeSort
          fun a b => a.1.order compareScores b.1 != .gt := by
    refine List.map_mergeSort ?_
    intro a ha b hb
    rw [agree a ha b hb, bne_gt_eq_isLE]
  rw [sortRows, ← mapped, List.map_map]
  exact List.map_id _

/-- Sorting items that can be compared under each key is sorting them by the total order. -/
theorem sort_eq_ok_of_sorts {specs : List SortSpec} {items : List (Scored Nat)}
    (h : ∀ k ∈ keys specs, k.Sorts items) :
    sort Ord.compare specs items =
      .ok (items.mergeSort fun a b => (keysOrder (keys specs) a b).isLE) :=
  sort_eq_ok_of_order (fun _ => not_isFragile_row h) fun _ ha _ => order_row h ha

/-- Sorting items that can be sorted is sorting them by the total order. -/
theorem sort_eq_ok {specs : List SortSpec} {items : List (Scored Nat)}
    (h : ∀ a ∈ items, a.document.SortableBy (keys specs)) :
    sort Ord.compare specs items =
      .ok (items.mergeSort fun a b => (keysOrder (keys specs) a b).isLE) :=
  sort_eq_ok_of_sorts fun _ => Key.sorts_of_sortableBy h

/-! ## What the order means -/

section Meaning

namespace Cell

theorem compare_string_eq_lt (s t : String) : Ord.compare s t = .lt ↔ s < t :=
  compareOfLessAndEq_eq_lt

/-- Among cells of one kind the total order is that of the values. -/
theorem grade_eq_lt_iff {kind : FieldKind} {v w : Value} (hv : v.IsKeyOf kind)
    (hw : w.IsKeyOf kind) (v_ne : v ≠ .missing) (w_ne : w ≠ .missing) :
    grade (.ofValue v) (.ofValue w) = .lt ↔ v.Less w := by
  cases kind with
  | numeric =>
    obtain ⟨x, rfl, hx⟩ := hv
    obtain ⟨y, rfl, hy⟩ := hw
    obtain ⟨i, hi⟩ := Double.exists_rank hx
    obtain ⟨j, hj⟩ := Double.exists_rank hy
    rw [ofValue, ofValue, grade_amount, Std.compare_eq_lt]
    simp [Value.Less, Double.lt, Double.compares_of_rank _ hi hj, hi, hj]
  | date =>
    obtain ⟨m, rfl⟩ := hv.resolve_left v_ne
    obtain ⟨n, rfl⟩ := hw.resolve_left w_ne
    rw [ofValue, ofValue, grade_moment]
    exact Std.compare_eq_lt
  | string | nestedPath | enumeration | json =>
    obtain ⟨s, rfl⟩ := hv.resolve_left v_ne
    obtain ⟨t, rfl⟩ := hw.resolve_left w_ne
    rw [ofValue, ofValue, grade_text, Ordering.then_eq_lt, Std.compare_eq_iff_eq]
    exact or_congr (compare_string_eq_lt _ _) (and_congr_right' (compare_string_eq_lt _ _))

theorem grade_relevance_eq_lt_iff {m n : Nat} :
    grade (.relevance m) (.relevance n) = .lt ↔ m < n := by
  rw [grade_relevance]
  exact Std.compare_eq_lt

theorem isMissing_ofValue {v : Value} (h : v ≠ .missing) :
    (Cell.ofValue v : Cell Nat).isMissing = false := by
  cases v with
  | missing => exact absurd rfl h
  | text _ | amount _ | moment _ | blob _ => rfl

/-- A cell comes before another in a direction if its value stands before the other. -/
theorem directed_eq_lt_iff (descending : Bool) {kind : FieldKind} {v w : Value}
    (hv : v.IsKeyOf kind) (hw : w.IsKeyOf kind) :
    directed descending (.ofValue v) (.ofValue w) = .lt ↔ v.StandsBefore descending w := by
  unfold Value.StandsBefore
  by_cases v_eq : v = .missing
  · subst v_eq
    refine iff_of_false ?_ fun before => before.1 rfl
    by_cases w_eq : w = .missing
    · subst w_eq
      rw [@Std.ReflCmp.compare_self _ (directed descending)]
      exact fun eq => nomatch eq
    · rw [directed_eq, isMissing_ofValue w_eq]
      exact fun eq => nomatch eq
  · rw [directed_eq, isMissing_ofValue v_eq]
    by_cases w_eq : w = .missing
    · subst w_eq
      exact iff_of_true rfl ⟨v_eq, .inl rfl⟩
    · rw [isMissing_ofValue w_eq]
      cases descending with
      | true =>
        show grade (.ofValue w) (.ofValue v) = .lt ↔ _
        rw [grade_eq_lt_iff hw hv w_eq v_eq]
        simp [v_eq, w_eq]
      | false =>
        show grade (.ofValue v) (.ofValue w) = .lt ↔ _
        rw [grade_eq_lt_iff hv hw v_eq w_eq]
        simp [v_eq, w_eq]

end Cell

variable {a b : Scored Nat}

/-- An item comes before another under a key just if the total order says so. -/
theorem Key.order_eq_lt_iff (k : Key) (ha : a.document.Regular) (hb : b.document.Regular) :
    k.order a b = .lt ↔ k.Before a b := by
  unfold Key.order Key.Before Key.cellOf Key.cell
  cases k.subject with
  | relevance =>
    cases k.descending with
    | true => exact Cell.grade_relevance_eq_lt_iff
    | false => exact Cell.grade_relevance_eq_lt_iff
  | field f =>
    obtain ⟨v, hv, kv⟩ := ha.key f
    obtain ⟨w, hw, kw⟩ := hb.key f
    simp only [hv, hw, Except.map]
    rw [Cell.directed_eq_lt_iff k.descending kv kw]
    constructor
    · intro before
      exact ⟨v, w, rfl, rfl, before⟩
    · rintro ⟨v', w', hv', hw', before⟩
      cases hv'
      cases hw'
      exact before

/-- The order by several keys and then by a relation is what the total order says. -/
theorem precedes_iff {rest : Scored Nat → Scored Nat → Prop} (ks : List Key)
    (ha : a.document.Regular) (hb : b.document.Regular) :
    Precedes rest ks a b ↔ keysOrder ks a b = .lt ∨ (keysOrder ks a b = .eq ∧ rest a b) := by
  induction ks with
  | nil => simp [Precedes, keysOrder]
  | cons k ks ih =>
    have swap : k.order b a = (k.order a b).swap := Std.OrientedCmp.eq_swap
    rw [Precedes, ih, ← k.order_eq_lt_iff ha hb, ← k.order_eq_lt_iff hb ha, swap]
    simp only [keysOrder, compareLex]
    cases k.order a b with
    | lt => simp
    | eq => simp
    | gt => simp

/-- Of two items at most one precedes the other, if that is so of the relation that settles what the
keys leave open. -/
theorem Precedes.asymm {rest : Scored Nat → Scored Nat → Prop} {ks : List Key}
    (ha : a.document.Regular) (hb : b.document.Regular) (h : rest a b → ¬rest b a)
    (before : Precedes rest ks a b) : ¬Precedes rest ks b a := by
  have swap : keysOrder ks b a = (keysOrder ks a b).swap := Std.OrientedCmp.eq_swap
  rw [precedes_iff ks ha hb] at before
  rw [precedes_iff ks hb ha, swap]
  rcases before with lt | ⟨eq, first⟩
  · simp [lt]
  · simpa [eq] using h first

end Meaning

/-- Items sorted by the keys of a query precede one another by the keys, and by the order in which
they were given where the keys leave it open. -/
theorem sort_precedes {specs : List SortSpec} {items : List (Scored Nat)}
    (h : ∀ a ∈ items, a.document.SortableBy (keys specs)) (nodup : items.Nodup)
    {rest : Scored Nat → Scored Nat → Prop} (given : items.Pairwise rest) :
    ∃ sorted, sort Ord.compare specs items = .ok sorted ∧ sorted.Perm items ∧
      sorted.Pairwise (Precedes rest (keys specs)) := by
  have perm : (items.mergeSort fun a b => (keysOrder (keys specs) a b).isLE).Perm items :=
    List.mergeSort_perm items _
  refine ⟨_, sort_eq_ok h, perm, ?_⟩
  refine (pairwise_mergeSort_then (keysOrder (keys specs)) nodup given).imp_of_mem ?_
  intro a b ha hb before
  have regular_a : a.document.Regular := (h a (perm.mem_iff.1 ha)).regular
  have regular_b : b.document.Regular := (h b (perm.mem_iff.1 hb)).regular
  exact (precedes_iff _ regular_a regular_b).2 before

end Sorting

end OrderRetrieval

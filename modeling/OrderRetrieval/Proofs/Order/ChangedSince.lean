import Mathlib.Data.List.Perm.Basic
import OrderRetrieval.Proofs.Order.Table

/-!
# What has changed in the order table

The query for what changed at a time or later goes by the last update of a row, and by its creation
only if it was never updated.  So it gives the rows that were created or updated at that time or
later, each once, but for those that are backdated: created by then, and updated before
(`OrderTable.tellsAll_iff`).
-/

namespace OrderRetrieval

open Calendar (Moment Timestamp)

namespace OrderRow

variable {r : OrderRow} {m : Moment}

/-- Whether a row was created at a moment or later. -/
def createdFrom (m : Moment) (r : OrderRow) : Bool := r.createdAt.any fun c => m.micros ≤ c.micros

/-- Whether a row was last updated at a moment or later. -/
def updatedFrom (m : Moment) (r : OrderRow) : Bool := r.updatedAt.any fun u => m.micros ≤ u.micros

/-- Whether a row was created at a moment or later although it was last updated before. -/
def backdated (m : Moment) (r : OrderRow) : Bool :=
  r.createdFrom m && r.updatedAt.any fun u => u.micros < m.micros

/-- A row counts as changed if it was created or updated by then, unless it is backdated. -/
theorem any_changedAt (r : OrderRow) (m : Moment) :
    (r.changedAt.any fun c => m.micros ≤ c.micros) =
      ((r.createdFrom m || r.updatedFrom m) && !r.backdated m) := by
  unfold changedAt backdated createdFrom updatedFrom
  cases r.updatedAt with
  | none => simp
  | some u =>
    by_cases h : m.micros ≤ u.micros
    · simp [h]
    · simp [h, Nat.lt_of_not_le h]

end OrderRow

namespace OrderTable

variable {t : OrderTable} {since : Timestamp} {m : Moment}

/-- The rows that were created or updated at a moment or later. -/
def touchedFrom (t : OrderTable) (m : Moment) : List OrderRow :=
  t.rows.filter fun r => r.createdFrom m || r.updatedFrom m

/-- Whether the orders that a table gives as changed at a time or later are those of the rows that
were created or updated by then, each once. -/
def TellsAll (t : OrderTable) (since : Timestamp) : Prop :=
  ∃ m orders, since.utc? = some m ∧
    (OrderSource.table t).fetchChangedSince since = (.ok orders, .table t) ∧
    orders.Perm ((t.touchedFrom m).map OrderRow.toOrder)

/-- The query gives the rows that were created or updated by then and are not backdated. -/
theorem changedSince_perm (t : OrderTable) (m : Moment) :
    (t.changedSince m).Perm ((t.touchedFrom m).filter fun r => !r.backdated m) := by
  refine (List.mergeSort_perm _ _).trans ?_
  rw [touchedFrom, List.filter_filter]
  refine .of_eq (List.filter_congr fun r _ => ?_)
  rw [OrderRow.any_changedAt, Bool.and_comm]

/-- A source that is a table answers with the orders of what the query gives. -/
theorem fetchChangedSince_eq (hm : since.utc? = some m) :
    (OrderSource.table t).fetchChangedSince since =
      (.ok ((t.changedSince m).map OrderRow.toOrder), .table t) := by
  simp only [OrderSource.fetchChangedSince, changedAfter, Timestamp.moment, hm]
  rfl

/-- No row is missing if none is backdated. -/
theorem filter_backdated_eq_self :
    ((t.touchedFrom m).filter fun r => !r.backdated m) = t.touchedFrom m ↔
      ∀ r ∈ t.rows, r.backdated m = false := by
  rw [List.filter_eq_self]
  constructor
  · intro h r hr
    by_contra backdated
    rw [Bool.not_eq_false] at backdated
    have created : r.createdFrom m = true := (Bool.and_eq_true_iff.1 backdated).1
    have touched : r ∈ t.touchedFrom m := List.mem_filter.2 ⟨hr, by rw [created, Bool.true_or]⟩
    have kept := h r touched
    rw [backdated] at kept
    exact absurd kept Bool.false_ne_true
  · intro h r hr
    rw [h r (List.mem_filter.1 hr).1]
    rfl

/-- At a time with a moment the table tells all if no row is backdated. -/
theorem tellsAll_iff_of_utc (hm : since.utc? = some m) :
    t.TellsAll since ↔ ∀ r ∈ t.rows, r.backdated m = false := by
  rw [← filter_backdated_eq_self]
  constructor
  · rintro ⟨n, orders, hn, answer, perm⟩
    obtain rfl : m = n := Option.some.inj (hm.symm.trans hn)
    rw [fetchChangedSince_eq hm, Prod.mk.injEq, Except.ok.injEq] at answer
    obtain ⟨rfl, -⟩ := answer
    refine List.filter_sublist.eq_of_length ?_
    rw [← (t.changedSince_perm m).length_eq]
    simpa using perm.length_eq
  · intro whole
    refine ⟨m, _, hm, fetchChangedSince_eq hm, List.Perm.map OrderRow.toOrder ?_⟩
    rw [← whole]
    exact t.changedSince_perm m

/-- **What the table tells of changes.**  It tells all rows that were created or updated at a time
or later exactly if the time has a moment in the calendar and no row is backdated.  Where there is
such a moment it gives, each once, the orders of all those rows but the backdated ones, and no
others; where there is none it fails.  A time without an offset has a moment. -/
theorem tellsAll_iff (t : OrderTable) (since : Timestamp) :
    (t.TellsAll since ↔ ∃ m, since.utc? = some m ∧ ∀ r ∈ t.rows, r.backdated m = false) ∧
      (∀ m, since.utc? = some m → ∃ orders,
        (OrderSource.table t).fetchChangedSince since = (.ok orders, .table t) ∧
          orders.Perm
            (((t.touchedFrom m).filter fun r => !r.backdated m).map OrderRow.toOrder)) ∧
      (since.utc? = none →
        (OrderSource.table t).fetchChangedSince since = (.error .dateOutOfRange, .table t)) ∧
      (since.offset = none → since.utc? = some since.reading) := by
  refine ⟨⟨?_, ?_⟩, fun m hm => ⟨_, fetchChangedSince_eq hm, ?_⟩, fun none => ?_, fun naive => ?_⟩
  · intro tells
    have ⟨m, orders, hm, answer⟩ := tells
    exact ⟨m, hm, (tellsAll_iff_of_utc hm).1 tells⟩
  · rintro ⟨m, hm, none⟩
    exact (tellsAll_iff_of_utc hm).2 none
  · exact (t.changedSince_perm m).map OrderRow.toOrder
  · simp only [OrderSource.fetchChangedSince, changedAfter, Timestamp.moment, none]
    rfl
  · rw [Timestamp.utc?, naive]

end OrderTable

/-! ### A row that was restored

An order of the second of June is updated from a copy of the first of May, and the copy brings its
own time. -/

namespace Restoration

/-- The start of the day so many days after the first of May 2024. -/
def midnight (days : Fin 60) : Moment :=
  ⟨63850118400000000 + days * Calendar.day, by
    unfold Calendar.span Calendar.dayCount Calendar.day Calendar.second
    omega⟩

/-- The row of the order. -/
def restored : OrderRow where
  id := "A"
  orderNumber := "A"
  status := some "PENDING"
  paymentStatus := some "PAID"
  fulfillmentStatus := some "UNFULFILLED"
  totalAmount := some 10
  shippingAddress := .null
  billingAddress := .null
  notes := none
  createdAt := some (midnight 32)
  updatedAt := some (midnight 0)
  shipping_writable := Datum.isWritable_null
  billing_writable := Datum.isWritable_null

/-- The first moment of the calendar on a clock that is an hour ahead. -/
def dawn : Timestamp := ⟨⟨0, by decide⟩, some (3600 * Calendar.second)⟩

end Restoration

/-- The order that was created on the second of June is not told among the changes since the first,
and no changes are told since a time whose moment is not in the calendar. -/
theorem OrderTable.not_tellsAll_restored :
    Restoration.restored ∈ (OrderTable.mk [Restoration.restored]).touchedFrom
        (Restoration.midnight 31) ∧
      ¬(OrderTable.mk [Restoration.restored]).TellsAll ⟨Restoration.midnight 31, none⟩ ∧
      ¬(OrderTable.mk [Restoration.restored]).TellsAll Restoration.dawn := by
  refine ⟨List.mem_filter.2 ⟨List.mem_singleton_self _, by decide +kernel⟩, ?_, ?_⟩
  · rw [tellsAll_iff_of_utc rfl]
    intro none
    have backdated : Restoration.restored.backdated (Restoration.midnight 31) = true := by
      decide +kernel
    rw [none _ (List.mem_singleton_self _)] at backdated
    exact Bool.false_ne_true backdated
  · rintro ⟨m, -, hm, -⟩
    have late : Restoration.dawn.utc? = none := by decide +kernel
    rw [late] at hm
    contradiction

end OrderRetrieval

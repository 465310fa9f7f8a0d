import Mathlib.Data.List.Nodup
import OrderRetrieval.Order.Column
import OrderRetrieval.Order.Source
import OrderRetrieval.Proofs.Order.Batch

/-!
# The rows of the order table

Which rows a table holds after a row was put into it or dropped, and which rows its queries give.  A
table whose rows have different ids keeps this property (`UniqueIds.put`, `UniqueIds.drop`), and its
orders have the ids of their rows.
-/

namespace OrderRetrieval

open Calendar (Moment Timestamp)

namespace OrderRow

/-- Whether the row was last changed at a moment or later. -/
def ChangedFrom (r : OrderRow) (m : Moment) : Prop := ∃ c ∈ r.changedAt, m.micros ≤ c.micros

theorem ChangedFrom.mono {r : OrderRow} {m n : Moment} (h : r.ChangedFrom n)
    (le : m.micros ≤ n.micros) : r.ChangedFrom m := by
  obtain ⟨c, hc, hn⟩ := h
  exact ⟨c, hc, Nat.le_trans le hn⟩

@[simp] theorem sourceId_toOrder (r : OrderRow) : r.toOrder.sourceId = .ok r.id := by
  simp [toOrder, Order.sourceId, Order.read, Order.ofAttributes, Datum.field, Datum.field?, bind,
    Except.bind, Datum.write, Datum.isWritable]

/-- A document of a row has the id of the row. -/
theorem id_of_toDocument {r : OrderRow} {d : Document} (h : r.toOrder.toDocument = .ok d) :
    d.id = r.id := by
  have hid := Order.sourceId_of_toDocument h
  rw [sourceId_toOrder] at hid
  exact (Except.ok.inj hid).symm

/-- The document of a row can be stored. -/
theorem isWritable_of_toDocument {r : OrderRow} {d : Document} (h : r.toOrder.toDocument = .ok d) :
    d.isWritable = true := by
  refine Order.isWritable_of_toDocument h ?_ ?_
  · rintro x ⟨⟩
    exact r.shipping_writable
  · rintro x ⟨⟩
    exact r.billing_writable

end OrderRow

/-- The documents of rows can be stored. -/
theorem Order.storable_of_rows {orders : List Order}
    (h : ∀ o ∈ orders, ∃ r : OrderRow, r.toOrder = o) : Storable orders := by
  intro d hd
  obtain ⟨o, ho, hod⟩ := mem_documents.1 hd
  obtain ⟨r, rfl⟩ := h o ho
  exact r.isWritable_of_toDocument hod

namespace OrderTable

/-- Whether no two rows have one id. -/
def UniqueIds (t : OrderTable) : Prop := (t.rows.map OrderRow.id).Nodup

theorem UniqueIds.eq_of_id_eq {t : OrderTable} (h : t.UniqueIds) {r s : OrderRow}
    (hr : r ∈ t.rows) (hs : s ∈ t.rows) (e : r.id = s.id) : r = s :=
  List.inj_on_of_nodup_map h hr hs e

theorem mem_drop {t : OrderTable} {id : String} {r : OrderRow} :
    r ∈ (t.drop id).rows ↔ r ∈ t.rows ∧ r.id ≠ id := by
  simp [drop]

theorem UniqueIds.drop {t : OrderTable} (h : t.UniqueIds) (id : String) : (t.drop id).UniqueIds :=
  List.Nodup.sublist (List.filter_sublist.map OrderRow.id) h

/-- A row that is put into a table takes the place of the one with its id. -/
theorem rows_put {t t' : OrderTable} {r : OrderRow} (h : t.put r = .ok t') :
    t'.rows = (t.drop r.id).rows ++ [r] := by
  simp only [put] at h
  split at h
  · contradiction
  · cases h
    rfl

theorem mem_put {t t' : OrderTable} {r s : OrderRow} (h : t.put r = .ok t') :
    s ∈ t'.rows ↔ (s ∈ t.rows ∧ s.id ≠ r.id) ∨ s = r := by
  rw [rows_put h, List.mem_append, mem_drop, List.mem_singleton]

theorem UniqueIds.put {t t' : OrderTable} {r : OrderRow} (h : t.UniqueIds)
    (hp : t.put r = .ok t') : t'.UniqueIds := by
  unfold UniqueIds
  rw [rows_put hp, List.map_append, List.nodup_append]
  refine ⟨h.drop r.id, List.nodup_singleton r.id, ?_⟩
  intro id hid id' hid' e
  obtain ⟨s, hs, rfl⟩ := List.mem_map.1 hid
  exact (mem_drop.1 hs).2 (e.trans (List.mem_singleton.1 hid'))

/-! ### Queries -/

theorem mem_all {t : OrderTable} {r : OrderRow} : r ∈ t.all ↔ r ∈ t.rows :=
  List.mem_mergeSort

theorem mem_changedSince {t : OrderTable} {m : Moment} {r : OrderRow} :
    r ∈ t.changedSince m ↔ r ∈ t.rows ∧ r.ChangedFrom m := by
  unfold changedSince
  rw [List.mem_mergeSort, List.mem_filter, Option.any_eq_true]
  simp only [decide_eq_true_eq]
  rfl

theorem mem_of_find? {t : OrderTable} {id : String} {r : OrderRow} (h : t.find? id = some r) :
    r ∈ t.rows := List.mem_of_find?_eq_some h

theorem mem_of_findBy {t : OrderTable} {id : Datum} {r : OrderRow}
    (h : t.findBy id = .ok (some r)) : r ∈ t.rows := by
  obtain ⟨key, -, found⟩ := Except.map_eq_ok.1 h
  obtain ⟨key, -, found⟩ := Option.bind_eq_some_iff.1 found
  exact mem_of_find? found

end OrderTable

end OrderRetrieval

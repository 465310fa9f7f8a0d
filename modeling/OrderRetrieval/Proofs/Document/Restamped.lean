import OrderRetrieval.Facet.Aggregate
import OrderRetrieval.Facet.Group
import OrderRetrieval.Matching.Highlight
import OrderRetrieval.Proofs.Facet.OnePass
import OrderRetrieval.Proofs.Sorting.Stable
import OrderRetrieval.Sorting.Basic

/-!
# Documents with the same instants

A document may be stamped anew: its timestamps are written in another way, but stand for the same
moments.  All its fields keep their values then (`Document.Restamped.value_eq`), so nothing that is
counted, grouped, ranked or sorted tells the difference.
-/

namespace OrderRetrieval

open Calendar (Timestamp)
open List (Forall₂)

/-- Whether two timestamps stand for the same moment of universal time; those that stand for none
count as the same. -/
def Calendar.Timestamp.SameInstant (s t : Timestamp) : Prop := s.utc? = t.utc?

instance (s t : Timestamp) : Decidable (s.SameInstant t) :=
  inferInstanceAs (Decidable (s.utc? = t.utc?))

theorem Calendar.Timestamp.SameInstant.moment_eq {s t : Timestamp} (same : s.SameInstant t) :
    s.moment = t.moment := by
  rw [moment, moment, same]

/-- A document and the same with its timestamps written in another way. -/
inductive Document.Restamped (d : Document) : Document → Prop
  | mk {created updated : Option Timestamp}
    (sameCreation : Option.Rel Timestamp.SameInstant d.createdAt created)
    (sameUpdate : Option.Rel Timestamp.SameInstant d.updatedAt updated) :
    Restamped d { d with createdAt := created, updatedAt := updated }

namespace Document.Restamped

variable {d d' : Document} (same : d.Restamped d')

include same

theorem totalAmount_eq : d.totalAmount = d'.totalAmount := by
  cases same
  rfl

theorem orderNumber_eq : d.orderNumber = d'.orderNumber := by
  cases same
  rfl

theorem highlights_eq (words : List (List Char)) : d.highlights words = d'.highlights words := by
  cases same
  rfl

omit same in
theorem ofTimestamp?_eq {s t : Option Timestamp} (same : Option.Rel Timestamp.SameInstant s t) :
    Value.ofTimestamp? s = Value.ofTimestamp? t := by
  cases same with
  | some h => rw [Value.ofTimestamp?, Value.ofTimestamp?, h.moment_eq]
  | none => rfl

/-- Every field keeps its value. -/
theorem value_eq (f : Field) : d.value f = d'.value f := by
  cases same with
  | mk sameCreation sameUpdate =>
    cases f with
    | createdAt => exact ofTimestamp?_eq sameCreation
    | updatedAt => exact ofTimestamp?_eq sameUpdate
    | _ => rfl

theorem key_eq (f : Field) : d.key f = d'.key f := by
  rw [key, key, same.value_eq f]

theorem textValue_eq (f : Field) : d.textValue f = d'.textValue f := by
  rw [textValue, textValue, same.value_eq f]

theorem groupEntry_eq (f : Field) : groupEntry f d = groupEntry f d' := by
  rw [groupEntry, groupEntry, same.value_eq f, same.totalAmount_eq]

theorem createdMoment?_eq : d.createdMoment? = d'.createdMoment? := by
  cases same with
  | mk sameCreation =>
    unfold createdMoment?
    dsimp only
    generalize d.createdAt = stamp at sameCreation ⊢
    cases sameCreation with
    | some h => exact congrArg (Except.map some) h.moment_eq
    | none => rfl

end Document.Restamped

/-! ## Documents that are counted and grouped -/

section Lists

variable {ds ds' : List Document} (same : Forall₂ Document.Restamped ds ds')

include same

theorem Facet.ofFields_eq_of_restamped (fs : List Field) : ofFields fs ds = ofFields fs ds' := by
  have entries : entryOf ds = entryOf ds' := by
    funext f
    have keys : keysOf f ds = keysOf f ds' := Except.mapM_congr same fun _ _ h => h.key_eq f
    rw [entryOf, entryOf, ofField, ofField, keys]
  rw [ofFields_eq, ofFields_eq, entries]

theorem dateRange_eq_of_restamped : dateRange ds = dateRange ds' := by
  have moments : ds.mapM Document.createdMoment? = ds'.mapM Document.createdMoment? :=
    Except.mapM_congr same fun _ _ h => h.createdMoment?_eq
  rw [dateRange, dateRange, createdMoments, createdMoments, moments]

theorem map_eq_of_restamped {α : Type} {f : Document → α}
    (agree : ∀ d d', d.Restamped d' → f d = f d') : ds.map f = ds'.map f := by
  induction same with
  | nil => rfl
  | cons head _ ih => rw [List.map_cons, List.map_cons, agree _ _ head, ih]

theorem aggregate_eq_of_restamped : aggregate ds = aggregate ds' := by
  have amounts : ds.map Document.totalAmount = ds'.map Document.totalAmount :=
    map_eq_of_restamped same fun _ _ h => h.totalAmount_eq
  have empty : ds.isEmpty = ds'.isEmpty := by
    cases same <;> rfl
  simp only [aggregate, dateRange_eq_of_restamped same, amounts, same.length_eq, empty]

theorem groupBy_eq_of_restamped (name : Datum) : groupBy name ds = groupBy name ds' := by
  have entries (f : Field) : ds.mapM (groupEntry f) = ds'.mapM (groupEntry f) :=
    Except.mapM_congr same fun _ _ h => h.groupEntry_eq f
  simp only [groupBy, entries]

end Lists

/-! ## Documents that are ranked -/

namespace Matcher

variable {ds ds' : List Document}

theorem score_eq_of_restamped {d d' : Document} (same : d.Restamped d') (m : Matcher)
    (words : List (List Char)) : m.score words d = m.score words d' := by
  simp only [score, texts, same.textValue_eq]

theorem scored_restamped (same : Forall₂ Document.Restamped ds ds') (m : Matcher)
    (words : List (List Char)) :
    Except.Alike Eq (Forall₂ fun p p' => p.1.Restamped p'.1 ∧ p.2 = p'.2) (m.scored words ds)
      (m.scored words ds') := by
  induction same with
  | nil => exact .ok .nil
  | cons head _ ih =>
    rw [scored, scored, score_eq_of_restamped head]
    refine Except.Alike.bind (R := Eq) (.refl _) ?_
    rintro s _ rfl
    refine ih.bind fun rest rest' related => ?_
    cases s with
    | some n => exact .ok (.cons ⟨head, rfl⟩ related)
    | none => exact .ok related

/-- Stamping documents anew changes neither which of them match a text nor their ranking. -/
theorem rank_restamped (same : Forall₂ Document.Restamped ds ds') (m : Matcher)
    (words : List (List Char)) :
    Except.Alike Eq (Forall₂ fun p p' => p.1.Restamped p'.1 ∧ p.2 = p'.2) (m.rank words ds)
      (m.rank words ds') := by
  unfold rank
  split
  · refine .ok ?_
    rw [List.forall₂_map_left_iff, List.forall₂_map_right_iff]
    exact same.imp fun _ _ h => ⟨h, rfl⟩
  · refine (scored_restamped same m words).map fun hits hits' related => ?_
    refine Sorting.forall₂_mergeSort related fun a a' b b' ha hb => ?_
    rw [ha.2, hb.2]

end Matcher

/-! ## Documents that are sorted -/

/-- An item and the same with its document stamped anew. -/
inductive Scored.Restamped {σ : Type} (a : Scored σ) : Scored σ → Prop
  | mk {d : Document} (same : a.document.Restamped d) : Restamped a { a with document := d }

namespace Sorting

variable {σ : Type} {items items' : List (Scored σ)}

theorem row_eq_of_restamped {a a' : Scored σ} (same : a.Restamped a') (ks : List Key) :
    row ks a = row ks a' := by
  have cells (k : Key) : k.cell a = k.cell a' := by
    cases same with
    | mk same =>
      unfold Key.cell
      cases k.subject with
      | relevance => rfl
      | field f => exact congrArg (Except.map Cell.ofValue) (same.key_eq f)
  simp only [row, cells]

/-- Stamping the documents anew changes neither whether they can be sorted nor their order. -/
theorem sort_restamped (same : Forall₂ Scored.Restamped items items')
    (compareScores : σ → σ → Ordering) (specs : List SortSpec) :
    Except.Alike Eq (Forall₂ Scored.Restamped) (sort compareScores specs items)
      (sort compareScores specs items') := by
  have rows : Forall₂ (fun p p' => p.1 = p'.1 ∧ p.2.Restamped p'.2)
      (items.map fun item => (row (keys specs) item, item))
      (items'.map fun item => (row (keys specs) item, item)) := by
    rw [List.forall₂_map_left_iff, List.forall₂_map_right_iff]
    exact same.imp fun a a' h => ⟨row_eq_of_restamped h _, h⟩
  have firsts : (items.map fun item => (row (keys specs) item, item)).map Prod.fst =
      (items'.map fun item => (row (keys specs) item, item)).map Prod.fst := by
    rw [← List.forall₂_eq_eq_eq, List.forall₂_map_left_iff, List.forall₂_map_right_iff]
    exact rows.imp fun _ _ h => h.1
  unfold sort
  dsimp only
  rw [firsts]
  split
  · exact .error rfl
  · refine .ok ?_
    unfold sortRows
    rw [List.forall₂_map_left_iff, List.forall₂_map_right_iff]
    refine (forall₂_mergeSort rows ?_).imp fun _ _ h => h.2
    intro a a' b b' ha hb
    rw [ha.1, hb.1]

end Sorting

end OrderRetrieval

import Mathlib.Data.List.Induction
import OrderRetrieval.Facet.Count
import OrderRetrieval.Proofs.Different
import OrderRetrieval.Proofs.Filter.Select

/-!
# Counting in one pass

`Facet.ofFields` goes through the documents once and counts each of them in all fields.  A document
that cannot be counted in one field ends the pass for all, but since there is only one way to fail,
the fields may as well be counted one after the other (`Facet.ofFields_eq`).
-/

namespace OrderRetrieval

namespace Facet

/-- The keys of some documents. -/
def keysOf (f : Field) (ds : List Document) : Except Failure (List Value) :=
  ds.mapM fun d => d.key f

/-- The facet of a field over some documents. -/
def ofField (f : Field) (ds : List Document) : Except Failure Counts :=
  (keysOf f ds).map fun vs => (Counts.ofValues vs).ordered

/-- A builder counts the keys of the documents it is given. -/
theorem Builder.foldlM_add (b : Builder) (ds : List Document) :
    ds.foldlM add b = (keysOf b.field ds).map fun vs =>
      { b with counts := vs.foldl (fun counts v => counts.add v) b.counts } := by
  induction ds generalizing b with
  | nil => rfl
  | cons d ds ih =>
    rw [keysOf, List.foldlM_cons, List.mapM_cons, Builder.add]
    cases d.key b.field with
    | error e => rfl
    | ok v =>
      refine (ih { b with counts := b.counts.add v }).trans ?_
      rw [keysOf]
      cases ds.mapM fun d => d.key b.field <;> rfl

section Entries

variable {entry : Field × Counts} {facets : List (Field × Counts)}

theorem enter_of_notMem (new : entry.1 ∉ facets.map Prod.fst) :
    enter entry facets = facets ++ [entry] := by
  induction facets with
  | nil => rfl
  | cons old rest ih =>
    rw [List.map_cons, List.mem_cons, not_or] at new
    rw [enter, if_neg (Ne.symm new.1), ih new.2]
    rfl

/-- The facet that a field has already may be entered again. -/
theorem enter_of_mem (mem : entry.1 ∈ facets.map Prod.fst)
    (same : ∀ old ∈ facets, old.1 = entry.1 → old = entry) : enter entry facets = facets := by
  induction facets with
  | nil => cases mem
  | cons old rest ih =>
    rw [List.forall_mem_cons] at same
    rw [enter]
    split
    · next here => rw [same.1 here]
    · next other => rw [ih ((List.mem_cons.1 mem).resolve_left (Ne.symm other)) same.2]

theorem byField_concat (entries : List (Field × Counts)) (entry : Field × Counts) :
    byField (entries ++ [entry]) = enter entry (byField entries) :=
  List.foldl_append

end Entries

/-- The facet of a field over some documents, with the field. -/
def entryOf (ds : List Document) (f : Field) : Except Failure (Field × Counts) :=
  (ofField f ds).map (f, ·)

theorem Builder.foldlM_start (f : Field) (ds : List Document) :
    (ds.foldlM add (start f)).map build = entryOf ds f := by
  rw [foldlM_add, entryOf, ofField]
  change ((keysOf f ds).map _).map build = ((keysOf f ds).map _).map _
  cases keysOf f ds <;> rfl

variable {f : Field} {fs : List Field} {ds : List Document} {entry : Field × Counts}
  {facets : List (Field × Counts)}

theorem entryOf_eq_ok :
    entryOf ds f = .ok entry ↔ entry.1 = f ∧ ofField entry.1 ds = .ok entry.2 := by
  rw [entryOf, Except.map_eq_ok]
  constructor
  · rintro ⟨counts, counted, rfl⟩
    exact ⟨rfl, counted⟩
  · rintro ⟨rfl, counted⟩
    exact ⟨entry.2, counted, rfl⟩

/-- Facets that are made field by field name the fields, with the facet of each. -/
theorem facet_of_mapM (h : fs.mapM (entryOf ds) = .ok facets) :
    facets.map Prod.fst = fs ∧ ∀ entry ∈ facets, ofField entry.1 ds = .ok entry.2 := by
  have each : List.Forall₂ (fun f entry => entryOf ds f = .ok entry) fs facets :=
    Except.mapM_eq_ok_iff.1 h
  constructor
  · rw [← List.forall₂_eq_eq_eq, List.forall₂_map_left_iff]
    exact (each.imp fun f entry made => (entryOf_eq_ok.1 made).1).flip
  · refine (forall_mem_congr (each.imp fun f entry made => ?_)).1 fun f _ => trivial
    exact iff_of_true trivial (entryOf_eq_ok.1 made).2

/-- By field there are the facets of the different fields. -/
theorem byField_mapM (fs : List Field) (ds : List Document) :
    (fs.mapM (entryOf ds)).map byField = fs.eraseDups.mapM (entryOf ds) := by
  induction fs using List.reverseRecOn with
  | nil => rfl
  | append_singleton fs f ih =>
    rw [Except.mapM_concat, eraseDups_concat]
    cases earlier : fs.mapM (entryOf ds) with
    | error e =>
      rw [earlier] at ih
      split
      · exact ih
      · rw [Except.mapM_concat, ← ih]
        rfl
    | ok entries =>
      rw [earlier] at ih
      obtain ⟨names, each⟩ := facet_of_mapM ih.symm
      split
      · next seen =>
        obtain ⟨entry, made⟩ := Except.exists_of_mapM_eq_ok earlier f seen
        obtain ⟨rfl, -⟩ := entryOf_eq_ok.1 made
        have entered : entry.1 ∈ (byField entries).map Prod.fst := by
          rw [names]
          exact List.mem_eraseDups.2 seen
        have same : ∀ old ∈ byField entries, old.1 = entry.1 → old = entry := by
          intro old mem here
          have counted := entryOf_eq_ok.2 ⟨here, each old mem⟩
          exact Except.ok.inj (counted.symm.trans made)
        rw [made, ← ih]
        exact congrArg Except.ok ((byField_concat entries entry).trans (enter_of_mem entered same))
      · next new =>
        rw [Except.mapM_concat, ← ih]
        cases made : entryOf ds f with
        | error e => rfl
        | ok entry =>
          obtain ⟨rfl, -⟩ := entryOf_eq_ok.1 made
          have other : entry.1 ∉ (byField entries).map Prod.fst := by
            rw [names, List.mem_eraseDups]
            exact new
          exact congrArg Except.ok ((byField_concat entries entry).trans (enter_of_notMem other))

/-- The facets of several fields are those of the different ones. -/
theorem ofFields_eq (fs : List Field) (ds : List Document) :
    ofFields fs ds = fs.eraseDups.mapM (entryOf ds) := by
  have sole (b : Builder) (d : Document) : Except.FailsOnly (· = .dateOutOfRange) (b.add d) :=
    Except.failsOnly_map.2 (d.key_failsOnly (Q := (· = .dateOutOfRange)) rfl b.field)
  calc ofFields fs ds
      = ((fs.map Builder.start).mapM fun b => ds.foldlM Builder.add b).map
          fun bs => byField (bs.map Builder.build) :=
        congrArg (Except.map _) (Except.foldlM_mapM sole ds (fs.map Builder.start))
    _ = (fs.mapM fun f => (ds.foldlM Builder.add (.start f)).map Builder.build).map byField := by
        rw [Except.mapM_map, List.mapM_map, Function.comp_def]
        cases fs.mapM fun f => ds.foldlM Builder.add (.start f) <;> rfl
    _ = (fs.mapM (entryOf ds)).map byField := by
        simp only [Builder.foldlM_start]
    _ = fs.eraseDups.mapM (entryOf ds) := byField_mapM fs ds

end Facet

end OrderRetrieval

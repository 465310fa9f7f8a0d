import OrderRetrieval.Engine.Plan
import OrderRetrieval.Proofs.Filter.Select
import OrderRetrieval.Proofs.Matching.Score
import OrderRetrieval.Proofs.Sorting.Order

/-!
# What a query finds

The items that a query finds among some documents, with their scores and in their order, said
without regard to how they are found (`Query.Finds`).  There is at most one such list
(`Query.Finds.unique`).
-/

namespace OrderRetrieval

open List (Forall₂)

/-! ## Sort keys -/

namespace Sorting

/-- The keys that a sort specification may mean.  A name that no field has means newest first. -/
inductive Key.MeantBy : SortSpec → Key → Prop
  | relevance (direction : Direction) :
    MeantBy ⟨relevanceName, direction⟩ ⟨.relevance, direction == .descending⟩
  | field (f : Field) (direction : Direction) :
    MeantBy ⟨f.name, direction⟩ ⟨.field f, direction == .descending⟩
  | unknown {name : String} (direction : Direction) (not_relevance : name ≠ relevanceName)
      (no_field : ∀ f : Field, f.name ≠ name) :
    MeantBy ⟨name, direction⟩ ⟨.field .createdAt, true⟩

theorem name_ne_relevanceName (f : Field) : f.name ≠ relevanceName := by
  cases f <;> decide

theorem Key.meantBy_iff {spec : SortSpec} {k : Key} : MeantBy spec k ↔ k = (ofSpec spec).1 := by
  constructor
  · intro h
    cases h with
    | relevance direction => rfl
    | field f direction => simp [ofSpec, name_ne_relevanceName]
    | @unknown name direction not_relevance no_field =>
      have none : Field.ofName? name = none := by
        rw [Option.eq_none_iff_forall_ne_some]
        intro f hf
        exact no_field f (Field.ofName?_eq_some_iff.1 hf)
      simp [ofSpec, not_relevance, none]
  · rintro rfl
    obtain ⟨name, direction⟩ := spec
    by_cases relevance : name = relevanceName
    · subst relevance
      exact .relevance direction
    · cases hf : Field.ofName? name with
      | some f =>
        obtain rfl := Field.ofName?_eq_some_iff.1 hf
        simpa [ofSpec, relevance] using .field f direction
      | none =>
        have no_field : ∀ f : Field, f.name ≠ name := by
          intro f eq
          rw [Field.ofName?_eq_some_iff.2 eq] at hf
          cases hf
        simpa [ofSpec, relevance, hf] using .unknown direction relevance no_field

theorem keys_nil : keys [] = [⟨.field .createdAt, true⟩] := by
  decide

/-- The keys of a query are those that its specifications mean. -/
theorem forall₂_meantBy_iff {specs : List SortSpec} {ks : List Key} (nonempty : specs ≠ []) :
    Forall₂ Key.MeantBy specs ks ↔ ks = keys specs := by
  have meant : Key.MeantBy = fun spec k => (Key.ofSpec spec).1 = k := by
    funext spec k
    exact propext (Key.meantBy_iff.trans eq_comm)
  have keys_eq : keys specs = specs.map fun spec => (Key.ofSpec spec).1 := by
    rw [keys, if_neg (by simpa using nonempty)]
  rw [meant, keys_eq, ← List.forall₂_map_left_iff, List.forall₂_eq_eq_eq, eq_comm]

end Sorting

/-- Whether an item stands before another where the sort keys do not tell: by its score, or else by
the place of its document. -/
def Scored.Ahead (ds : List Document) (a b : Scored Nat) : Prop :=
  b.score < a.score ∨ (a.score = b.score ∧ [a.document, b.document].Sublist ds)

/-! ## The parts of a query -/

/-- The condition that a range of dates stands for. -/
def DateRange.condition (r : DateRange) : Condition :=
  ⟨r.field, "between", .arr [.time r.start, .time r.finish], .all⟩

/-- The condition that a range of numbers stands for. -/
def NumberRange.condition (r : NumberRange) : Condition :=
  ⟨r.field, "between", .arr [.float r.least, .float r.greatest], .all⟩

namespace Query

/-- The text of a query. -/
def text : Query → Option String
  | simple q => q.text
  | advanced q => q.text

/-- The page that a query asks for. -/
def paging : Query → Paging
  | simple q => q.paging
  | advanced q => q.paging

/-- The options of a query. -/
def options : Query → Options
  | simple q => q.options
  | advanced q => q.options

/-- The names of the fields in which a query searches, if it names any. -/
def fieldNames : Query → List String
  | simple q => q.searchFields
  | advanced q => q.fields.getD []

/-- The names of the fields that a query counts, if it names any. -/
def facetNames : Query → List String
  | simple q => q.facetFields.getD []
  | advanced _ => []

/-- The filters of a query. -/
def filters : Query → List Condition
  | simple q => q.filters
  | advanced q => q.filters

/-- The range of dates of a query as conditions. -/
def dateFilters : Query → List Condition
  | simple _ => []
  | advanced q => (q.dateRange.map DateRange.condition).toList

/-- The range of numbers of a query as conditions. -/
def numberFilters : Query → List Condition
  | simple _ => []
  | advanced q => (q.numberRange.map NumberRange.condition).toList

/-- The words of a query. -/
def words (q : Query) : List (List Char) := queryWords? q.text

/-- The text search of a query: in the fields that it names, or else in the usual ones. -/
def matcher (q : Query) : Matcher where
  fields :=
    (if q.fieldNames = [] then defaultSearchFields else q.fieldNames).filterMap Field.ofName?
  closeness := q.options.closeness

/-- Whether a document passes the filters of a query. -/
def Admits : Query → Document → Prop
  | simple q, d => ∀ c ∈ q.filters, c.Accepts d
  | advanced q, d => q.combinator.Joins (fun c => c.Accepts d) q.filters ∧
      (∀ r ∈ q.dateRange, r.Covers d) ∧ ∀ r ∈ q.numberRange, r.Covers d

/-- The keys by which a query sorts; without any, newest first. -/
def SortsBy (q : Query) (ks : List Sorting.Key) : Prop :=
  (q.sort = [] ∧ ks = [⟨.field .createdAt, true⟩]) ∨
    (q.sort ≠ [] ∧ Forall₂ Sorting.Key.MeantBy q.sort ks)

/-- The items that a query finds among some documents: those that pass its filters and match its
text, each once and with its score, by the sort keys, the score and the place of the document. -/
structure Finds (q : Query) (ds : List Document) (items : List (Scored Nat)) : Prop where
  nodup : (items.map Scored.document).Nodup
  mem_iff : ∀ d n, ⟨d, n⟩ ∈ items ↔
    d ∈ ds ∧ q.Admits d ∧ q.matcher.Keeps q.words d ∧ n = q.matcher.total q.words d
  ordered : ∃ ks, q.SortsBy ks ∧ items.Pairwise (Sorting.Precedes (Scored.Ahead ds) ks)

/-- The items of the page that a query asks for. -/
def page {α : Type} (q : Query) (items : List α) : List α :=
  (items.drop ((q.paging.page - 1) * q.paging.limit).toNat).take q.paging.limit.toNat

/-! ## There is one answer -/

theorem sortsBy_iff {q : Query} {ks : List Sorting.Key} :
    q.SortsBy ks ↔ ks = Sorting.keys q.sort := by
  unfold SortsBy
  by_cases h : q.sort = []
  · rw [h, Sorting.keys_nil]
    simp
  · rw [Sorting.forall₂_meantBy_iff h]
    simp [h]

section Finds

variable {q : Query} {ds : List Document} {items other : List (Scored Nat)}

/-- Of two items at most one stands ahead of the other. -/
theorem ahead_asymm {a b : Scored Nat} (nodup : ds.Nodup) (h : Scored.Ahead ds a b) :
    ¬Scored.Ahead ds b a := by
  rintro (less | ⟨eq, swapped⟩)
  · rcases h with less' | ⟨eq', -⟩
    · exact Nat.lt_asymm less less'
    · exact absurd eq' (Nat.ne_of_lt less)
  · rcases h with less' | ⟨-, sub⟩
    · exact absurd eq (Nat.ne_of_lt less')
    · exact Sorting.not_pair_sublist_swap nodup sub swapped

/-- The list of items that a query finds is the only one. -/
theorem Finds.unique (regular : ∀ d ∈ ds, d.Regular) (nodup : ds.Nodup)
    (h : q.Finds ds items) (h' : q.Finds ds other) : items = other := by
  obtain ⟨ks, sorts, ordered⟩ := h.ordered
  obtain ⟨ks', sorts', ordered'⟩ := h'.ordered
  rw [sortsBy_iff] at sorts sorts'
  subst sorts sorts'
  have regular_of_mem : ∀ a ∈ items, a.document.Regular := by
    intro a ha
    exact regular _ ((h.mem_iff a.document a.score).1 ha).1
  have perm : items.Perm other := by
    refine (List.perm_ext_iff_of_nodup h.nodup.of_map h'.nodup.of_map).2 ?_
    intro a
    exact (h.mem_iff a.document a.score).trans (h'.mem_iff a.document a.score).symm
  refine perm.eq_of_pairwise ?_ ordered ordered'
  intro a b ha hb before after
  have regular_b : b.document.Regular := regular_of_mem b (perm.mem_iff.2 hb)
  exact absurd after (before.asymm (regular_of_mem a ha) regular_b (ahead_asymm nodup))

end Finds

end Query

end OrderRetrieval

import OrderRetrieval.Proofs.Engine.Meaning
import OrderRetrieval.Proofs.Engine.Pages
import OrderRetrieval.Proofs.Facet.Count

/-!
# Drilling down

A query that is narrowed by one more filter finds those of its items that meet it, in the same order
(`Query.Finds.narrow`).  The documents that a facet counts under a value are those that meet the
filter for this value (`Condition.accepts_isValue_iff`), so the number beside the value is the total
of the query that is narrowed to it (`Engine.search_drills`).
-/

namespace OrderRetrieval

/-! ## Narrowing a query -/

/-- The query with one more filter. -/
def SimpleQuery.narrow (q : SimpleQuery) (c : Condition) : SimpleQuery :=
  { q with filters := q.filters ++ [c] }

section Narrow

variable {q : SimpleQuery} {c : Condition}

theorem Query.admits_narrow_iff {d : Document} :
    (simple (q.narrow c)).Admits d ↔ (simple q).Admits d ∧ c.Accepts d := by
  show (∀ x ∈ q.filters ++ [c], x.Accepts d) ↔ _
  rw [List.forall_mem_append, List.forall_mem_singleton]
  rfl

/-- A narrowed query finds the items of the query that meet the filter. -/
theorem Query.Finds.narrow {ds : List Document} {items : List (Scored Nat)}
    (finds : (simple q).Finds ds items) {meets : Document → Bool}
    (accepts : ∀ d ∈ ds, meets d = true ↔ c.Accepts d) :
    (simple (q.narrow c)).Finds ds (items.filter fun a => meets a.document) where
  nodup := (List.filter_sublist.map Scored.document).nodup finds.nodup
  mem_iff d n := by
    rw [List.mem_filter, finds.mem_iff, admits_narrow_iff]
    constructor
    · rintro ⟨⟨hd, admits, keeps, total⟩, met⟩
      exact ⟨hd, ⟨admits, (accepts d hd).1 met⟩, keeps, total⟩
    · rintro ⟨hd, ⟨admits, accepted⟩, keeps, total⟩
      exact ⟨⟨hd, admits, keeps, total⟩, (accepts d hd).2 accepted⟩
  ordered := by
    obtain ⟨ks, sorts, ordered⟩ := finds.ordered
    exact ⟨ks, sorts, ordered.filter _⟩

/-- A query without faults has none either with one more filter that compiles. -/
theorem Plan.ofQuery_narrow {settings : Settings} {p : Plan} {t : Test}
    (h : ofQuery settings (.simple q) = .ok (p, [])) (compiles : c.compile = .ok t) :
    ∃ p', ofQuery settings (.simple (q.narrow c)) = .ok (p', []) := by
  obtain ⟨faults, reported, none⟩ := exists_ofQuery_iff.1 ⟨p, h⟩
  rw [List.nil_eq, List.append_eq_nil_iff] at none
  obtain ⟨own, rfl⟩ := none
  refine exists_ofQuery_iff.2 ⟨[], reported.append (.compiled compiles .nil), ?_⟩
  rw [List.append_nil]
  exact own.symm

end Narrow

/-! ## The filter for a value -/

/-- The condition that a field has a value. -/
def Condition.isValue (f : Field) (v : Value) : Condition :=
  ⟨f.name, Operator.equals.name, v.datum, .all⟩

namespace Condition

variable {f : Field} {v : Value}

/-- The filter for a value accepts the values that are counted as one with it. -/
theorem compile_isValue (json : f.kind ≠ .json) (date : f.kind ≠ .date)
    (key : v.IsKeyOf f.kind) (present : v ≠ .missing) :
    (isValue f v).compile = .ok ⟨f, fun w => w.sameKey v⟩ := by
  have supported : .equals ∈ f.kind.operators ∧ v.datum.isNull = false ∧
      f.accepts .equals v.datum = .ok fun w => w.sameKey v := by
    unfold Field.accepts
    cases kind : f.kind with
    | string | nestedPath | enumeration =>
      rw [kind] at key
      obtain ⟨s, rfl⟩ := key.resolve_left present
      refine ⟨by decide, rfl, ?_⟩
      have same : (fun w : Value => w.equals (.str s)) = fun w => w.sameKey (.text s) := by
        funext w
        rw [Bool.eq_iff_iff, Value.equals_str_iff]
        cases w <;> simp [Value.sameKey]
      exact congrArg Except.ok same
    | numeric =>
      rw [kind] at key
      obtain ⟨x, rfl, -⟩ := key
      refine ⟨by decide, rfl, ?_⟩
      have same : (Scale.numbers f).placed (fun y => Double.eq y x) =
          fun w => w.sameKey (.amount x) := by
        funext w
        rw [Bool.eq_iff_iff, Scale.placed_numbers]
        cases w <;> simp [Value.sameKey]
      exact congrArg Except.ok same
    | json => exact absurd kind json
    | date => exact absurd kind date
  rw [compile, isValue, resolve_of_mem supported.1 supported.2.1]
  simp only [supported.2.2]
  rfl

/-- A document falls under a value if it meets the filter for the value. -/
theorem accepts_isValue_iff (json : f.kind ≠ .json)
    (compiles : (isValue f v).compile = .ok ⟨f, fun w => w.sameKey v⟩) {d : Document} :
    d.fallsUnder f v = true ↔ (isValue f v).Accepts d := by
  rw [accepts_iff compiles, Test.holds_eq_ok_true, Document.fallsUnder, Document.key]
  cases hw : d.value f with
  | error e => simp [Except.map]
  | ok w => simp [Except.map, Document.toKey_eq_self json hw]

end Condition

/-! ## The numbers beside the values -/

/-- Whether a query is valid and gets answers that all have a property, whatever was searched
before. -/
structure Query.AnsweredWith (settings : Settings) (index : Index) (q : Query)
    (P : SearchResult → Prop) : Prop where
  valid : (Engine.validate settings q).1 = .ok []
  answered : settings.Sound → ∀ (e : Engine) (millis : Float),
    ∃ r, (e.search settings index millis q).result = .ok r
  every : ∀ (e : Engine) (millis : Float) (r : SearchResult),
    (e.search settings index millis q).result = .ok r → P r

namespace Query

variable {settings : Settings} {index : Index} {q : Query} {P Q : SearchResult → Prop}

theorem AnsweredWith.mono (h : q.AnsweredWith settings index P) (le : ∀ r, P r → Q r) :
    q.AnsweredWith settings index Q where
  valid := h.valid
  answered := h.answered
  every e millis r hr := le r (h.every e millis r hr)

/-- A query without faults is answered with what it finds. -/
theorem Finds.answered {p : Plan} {items : List (Scored Nat)}
    (finds : q.Finds index.documents items)
    (sortable : ∀ d ∈ index.documents, d.SortableBy (Sorting.keys q.sort))
    (hp : Plan.ofQuery settings q = .ok (p, [])) :
    q.AnsweredWith settings index fun r => r.Reports settings q items := by
  have does : p.Does q := Plan.does_of_ofQuery hp
  have regular : ∀ d ∈ index.documents, d.Regular := fun d hd => (sortable d hd).regular
  obtain ⟨others, found, finds'⟩ := Plan.found_finds does sortable
  obtain rfl : others = items := finds'.unique regular index.ids_nodup.of_map finds
  refine ⟨Engine.validate_eq_ok_nil hp, fun sound e millis => ?_, fun e millis r hr => ?_⟩
  · rw [Engine.search_eq_execute hp]
    refine Engine.execute_answers does sound found ?_
    rw [List.forall_mem_map]
    intro a ha
    exact regular _ ((finds.mem_iff a.document a.score).1 ha).1
  · rw [Engine.search_eq_execute hp] at hr
    exact Engine.execute_reports does found hr

end Query

/-! ## Lamps by status -/

namespace Lamps

/-- All lamps, counted by status. -/
def byStatus : SimpleQuery where
  text := none
  searchFields := []
  filters := []
  sort := [⟨Sorting.relevanceName, .descending⟩]
  paging := .default
  options := .default
  facetFields := some ["status"]

/-- How many lamps have which status. -/
def statuses : Facet.Counts := [(.text "PENDING", 1), (.missing, 1), (.text "CANCELLED", 1)]

theorem sortable_byStatus :
    ∀ d ∈ index.documents, d.SortableBy (Sorting.keys byStatus.sort) := by
  intro d hd
  refine ⟨(sortable d hd).regular, ?_⟩
  intro k hk f hf
  obtain rfl := List.mem_singleton.1 hk
  cases hf

theorem valid_byStatus : (Engine.validate .default (.simple byStatus)).1 = .ok [] := rfl

/-- Lamps without a text to look for are found as they are listed. -/
theorem found_byStatus {p : Plan} (h : Plan.ofQuery .default (.simple byStatus) = .ok (p, [])) :
    (p.found index).result = .ok (index.documents.map fun d => ⟨d, 0⟩) := by
  cases h
  refine congrArg Except.ok ?_
  rw [Sorting.sortRows, List.mergeSort_of_pairwise (by decide)]
  rfl

theorem ofFields_status :
    Facet.ofFields [.status] index.documents = .ok [(.status, statuses)] := by
  have ordered : statuses.ordered = statuses := List.mergeSort_of_pairwise (by decide)
  show Except.ok [(Field.status, statuses.ordered)] = _
  rw [ordered]

end Lamps

namespace Engine

/-- **Facet counts are the totals of drilling down.**  A valid query is answered with one facet for
each field that it counts.  The numbers of a facet add up to the total of the answer.  In a facet of
texts or of amounts, the number beside a value is the total of every answer to the query narrowed to
that value, which is valid as well. -/
theorem search_drills (settings : Settings) (index : Index) (q : SimpleQuery)
    (sortable : ∀ d ∈ index.documents, d.SortableBy (Sorting.keys q.sort))
    (valid : (validate settings (.simple q)).1 = .ok []) :
    (Query.simple q).AnsweredWith settings index fun r =>
      (∃ fields, (Query.simple q).counted settings = .ok fields ∧
        r.facets.map Prod.fst = fields.eraseDups) ∧
      ∀ f counts, (f, counts) ∈ r.facets → (counts.map Prod.snd).sum = r.total ∧
        (f.kind ≠ .json → f.kind ≠ .date → ∀ v n, (v, n) ∈ counts → v ≠ .missing →
          (Query.simple (q.narrow (.isValue f v))).AnsweredWith settings index
            fun r' => r'.total = n) := by
  obtain ⟨p, hp⟩ := ofQuery_of_validate valid
  have regular : ∀ d ∈ index.documents, d.Regular := fun d hd => (sortable d hd).regular
  obtain ⟨items, -, finds⟩ := Plan.found_finds (Plan.does_of_ofQuery hp) sortable
  refine (finds.answered sortable hp).mono ?_
  rintro r ⟨total, -, ⟨fields, counted, facets⟩, -⟩
  obtain ⟨names, each⟩ := Facet.facet_of_ofFields facets
  refine ⟨⟨fields, counted, names⟩, fun f counts mem => ?_⟩
  have facet : Facet.ofField f (items.map Scored.document) = .ok counts := each (f, counts) mem
  constructor
  · rw [Facet.sum_of_ofField facet, List.length_map, total]
  intro json date v n entry present
  have found : ∀ d ∈ items.map Scored.document, d.Regular := by
    rw [List.forall_mem_map]
    intro a ha
    exact regular _ ((finds.mem_iff a.document a.score).1 ha).1
  obtain ⟨key, rfl⟩ := Facet.entry_of_ofField found facet entry
  have compiles := Condition.compile_isValue json date key present
  obtain ⟨p', hp'⟩ := Plan.ofQuery_narrow hp compiles
  have narrowed := finds.narrow fun d _ => Condition.accepts_isValue_iff json compiles
  refine (narrowed.answered sortable hp').mono fun r' reports => ?_
  rw [reports.total, List.countP_map, List.countP_eq_length_filter]
  rfl

/-- One of three lamps is pending, and so the query for pending lamps has the total one. -/
theorem search_drills_lamps :
    (∀ d ∈ Lamps.index.documents, d.SortableBy (Sorting.keys Lamps.byStatus.sort)) ∧
      (validate .default (.simple Lamps.byStatus)).1 = .ok [] ∧
      ∃ r r', ((start none).search .default Lamps.index 0 (.simple Lamps.byStatus)).result = .ok r ∧
        r.facets = [(.status, Lamps.statuses)] ∧ r.total = 3 ∧
        ((start none).search .default Lamps.index 0
          (.simple (Lamps.byStatus.narrow (.isValue .status (.text "PENDING"))))).result = .ok r' ∧
        r'.total = 1 := by
  have drills := search_drills .default Lamps.index Lamps.byStatus Lamps.sortable_byStatus
    Lamps.valid_byStatus
  obtain ⟨r, hr⟩ := drills.answered Settings.sound_default (start none) 0
  have facets : r.facets = [(.status, Lamps.statuses)] := by
    obtain ⟨p, hp, hr⟩ := plan_of_search hr
    obtain ⟨fields, counted, h⟩ :=
      (execute_reports (Plan.does_of_ofQuery hp) (Lamps.found_byStatus hp) hr).facets
    cases counted
    exact Except.ok.inj (h.symm.trans Lamps.ofFields_status)
  obtain ⟨-, each⟩ := drills.every (start none) 0 r hr
  obtain ⟨sum, narrows⟩ := each .status Lamps.statuses (by rw [facets]; exact List.mem_cons_self)
  have pending := narrows (by decide) (by decide) (.text "PENDING") 1 List.mem_cons_self nofun
  obtain ⟨r', hr'⟩ := pending.answered Settings.sound_default (start none) 0
  exact ⟨Lamps.sortable_byStatus, Lamps.valid_byStatus, r, r', hr, facets, sum.symm,
    hr', pending.every (start none) 0 r' hr'⟩

end Engine

end OrderRetrieval

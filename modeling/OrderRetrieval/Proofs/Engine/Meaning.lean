import OrderRetrieval.Proofs.Engine.Consult
import OrderRetrieval.Proofs.Facet.OnePass
import OrderRetrieval.Proofs.Query.Meaning

/-!
# What a search reports

The plan of a query without faults does what the query means (`Plan.does_of_ofQuery`), so the items
that the engine finds are those that the query finds (`Plan.found_finds`).  A search reports one
page of them, their number, and facets and the range of dates over all of them.
-/

namespace OrderRetrieval

namespace Query

/-- The fields that a search counts: those that the query names, or else the usual ones. -/
def counted (settings : Settings) (q : Query) : Except Failure (List Field) := do
  let names ← if q.facetNames = [] then settings.facetFields.parts else .ok (q.facetNames.map .str)
  Facet.resolve names

end Query

/-- The document of a hit with its score. -/
def Hit.scored (h : Hit) : Scored Nat := ⟨h.document, h.score⟩

/-- Whether a result reports some items: their number, the page that the query asks for, and facets
and the range of dates over all of them. -/
structure SearchResult.Reports (r : SearchResult) (settings : Settings) (q : Query)
    (items : List (Scored Nat)) : Prop where
  total : r.total = items.length
  page : r.items.map Hit.scored = q.page items
  facets : ∃ fields, q.counted settings = .ok fields ∧
    Facet.ofFields fields (items.map Scored.document) = .ok r.facets
  range : OrderRetrieval.dateRange (items.map Scored.document) = .ok r.dateRange

namespace Plan

/-- Whether a plan does what a query means. -/
structure Does (p : Plan) (q : Query) : Prop where
  text : p.text = q.text
  sort : p.sort = q.sort
  paging : p.paging = q.paging
  matcher : Matcher.ofNames p.searchFields p.closeness = .ok q.matcher
  facetNames : p.facetFields.getD [] = q.facetNames
  facets : ∀ name ∈ q.facetNames, ∃ f, Field.resolve (.str name) = .ok f
  admits : ∀ d : Document, d.Timed → ∃ b, p.predicate d = .ok b ∧ (b = true ↔ q.Admits d)

/-! ## From a query to its plan -/

theorem fieldFaults_eq_nil_iff {names : List Datum} :
    fieldFaults names = [] ↔ ∀ name ∈ names, ∃ f, Field.resolve name = .ok f := by
  rw [fieldFaults, List.filterMap_eq_nil_iff]
  refine forall₂_congr fun name _ => ?_
  cases Field.resolve name <;> simp

/-- Names of fields stand for the fields of these names. -/
theorem mapM_resolve {names : List String}
    (h : ∀ name ∈ names, ∃ f, Field.resolve (.str name) = .ok f) :
    (names.mapM fun name => Field.resolve (.str name)) = .ok (names.filterMap Field.ofName?) := by
  induction names with
  | nil => rfl
  | cons name names ih =>
    rw [List.forall_mem_cons] at h
    obtain ⟨⟨f, hf⟩, rest⟩ := h
    have found : Field.ofName? name = some f := by
      cases hg : Field.ofName? name with
      | none =>
        rw [Field.resolve, hg] at hf
        cases hf
      | some g =>
        rw [Field.resolve, hg] at hf
        exact congrArg some (Except.ok.inj hf)
    rw [List.mapM_cons, hf, ih rest, List.filterMap_cons_some found]
    rfl

/-- The usual names are those of fields. -/
theorem resolve_usual : ∀ name ∈ defaultSearchFields, ∃ f, Field.resolve (.str name) = .ok f := by
  have fields : defaultSearchFields =
      [Field.orderNumber, .customerName, .customerEmail, .notes].map Field.name := rfl
  rw [fields, List.forall_mem_map]
  intro f _
  exact ⟨f, Field.resolve_name f⟩

/-- The text search of a query whose field names have no faults. -/
theorem ofNames_eq_ok {q : Query} {names : Option (List String)}
    (hnames : names.getD [] = q.fieldNames)
    (h : ∀ name ∈ q.fieldNames, ∃ f, Field.resolve (.str name) = .ok f) :
    Matcher.ofNames names q.options.closeness = .ok q.matcher := by
  unfold Matcher.ofNames Query.matcher
  rw [← hnames] at h ⊢
  match names with
  | none | some [] =>
    exact congrArg (Except.map fun fields => Matcher.mk fields q.options.closeness)
      (mapM_resolve resolve_usual)
  | some (name :: names) =>
    exact congrArg (Except.map fun fields => Matcher.mk fields q.options.closeness)
      (mapM_resolve h)

/-- The plan of a simple query without faults does what the query means. -/
theorem does_of_ofSimple {settings : Settings} {q : SimpleQuery} {p : Plan}
    (h : ofSimple settings q = .ok (p, [])) : p.Does (.simple q) := by
  obtain ⟨⟨tests, faults⟩, compiled, eq⟩ := Except.map_eq_ok.1 h
  obtain ⟨rfl, none⟩ := Prod.mk.inj eq
  simp only [List.append_eq_nil_iff] at none
  obtain ⟨⟨⟨-, fields⟩, facets⟩, rfl⟩ := none
  rw [fieldFaults_eq_nil_iff, List.forall_mem_map] at fields facets
  refine ⟨rfl, rfl, rfl, @ofNames_eq_ok (.simple q) _ rfl fields, rfl, facets, ?_⟩
  intro d timed
  exact Condition.combine_tests .all compiled timed

/-- The tests of the ranges of a query ask for what the ranges cover. -/
theorem forall_ranges_iff {q : AdvancedQuery} {ts : List Test} {d : Document}
    (h : Condition.compileEach (rangeConditions q) = .ok (ts, [])) :
    (∀ t ∈ ts, t.holds d = .ok true) ↔
      (∀ r ∈ q.dateRange, r.Covers d) ∧ ∀ r ∈ q.numberRange, r.Covers d := by
  have each := Condition.compileEach_eq_ok.1 h
  have compiles := Condition.exists_compile_eq_ok each
  rw [← forall_mem_congr (each.imp fun c t => Condition.accepts_iff)]
  rw [rangeConditions, List.forall_mem_append] at compiles ⊢
  simp only [Option.mem_toList, Option.map_eq_some_iff, forall_exists_index, and_imp,
    forall_apply_eq_imp_iff₂] at compiles ⊢
  obtain ⟨dates, numbers⟩ := compiles
  refine and_congr ?_ ?_
  · exact forall₂_congr fun r hr => DateRange.accepts_iff (dates r hr)
  · exact forall₂_congr fun r hr => NumberRange.accepts_iff (numbers r hr)

/-- The plan of an advanced query without faults does what the query means. -/
theorem does_of_ofAdvanced {settings : Settings} {q : AdvancedQuery} {p : Plan}
    (h : ofAdvanced settings q = .ok (p, [])) : p.Does (.advanced q) := by
  obtain ⟨⟨tests, faults⟩, compiled, h⟩ := Except.bind_eq_ok.1 h
  obtain ⟨⟨ranges, rangeFaults⟩, rangesCompiled, h⟩ := Except.bind_eq_ok.1 h
  obtain ⟨rfl, none⟩ := Prod.mk.inj (Except.ok.inj h)
  simp only [List.append_eq_nil_iff] at none
  obtain ⟨⟨⟨-, fields⟩, rfl⟩, rfl⟩ := none
  rw [fieldFaults_eq_nil_iff, List.forall_mem_map] at fields
  refine ⟨rfl, rfl, rfl, @ofNames_eq_ok (.advanced q) _ rfl fields, rfl,
    List.forall_mem_nil _, ?_⟩
  intro d timed
  obtain ⟨b, hb, iff⟩ := Condition.combine_tests q.combinator compiled timed
  have covers := @forall_ranges_iff q ranges d rangesCompiled
  cases ranges with
  | nil =>
    refine ⟨b, hb, ?_⟩
    rw [iff]
    exact (and_iff_left (covers.1 (List.forall_mem_nil _))).symm
  | cons t ts =>
    have answers : ∀ p ∈ Predicate.combine q.combinator (tests.map Test.holds) ::
        (t :: ts).map Test.holds, ∃ b, p d = .ok b := by
      rw [List.forall_mem_cons, List.forall_mem_map]
      exact ⟨⟨b, hb⟩, fun u _ => u.holds_eq_ok timed⟩
    obtain ⟨a, ha, all⟩ := Predicate.combine_eq_ok .all answers
    refine ⟨a, ha, all.trans ?_⟩
    rw [Combinator.Joins, List.forall_mem_cons, List.forall_mem_map, hb, covers]
    exact and_congr_left' ((Except.ok.injEq b true) ▸ iff)

/-- The plan of a query without faults does what the query means. -/
theorem does_of_ofQuery {settings : Settings} {q : Query} {p : Plan}
    (h : ofQuery settings q = .ok (p, [])) : p.Does q := by
  cases q with
  | simple q => exact does_of_ofSimple h
  | advanced q => exact does_of_ofAdvanced h

/-! ## What a plan finds -/

section Found

variable {p : Plan} {q : Query} {index : Index}

/-- The predicate of a plan passes the documents that its query admits. -/
theorem Does.passes_iff (does : p.Does q) {d : Document} (timed : d.Timed) :
    p.predicate.passes d = true ↔ q.Admits d := by
  obtain ⟨b, hb, iff⟩ := does.admits d timed
  rw [Predicate.passes, hb]
  exact iff

theorem Does.select_eq_ok (does : p.Does q) {ds : List Document} (timed : ∀ d ∈ ds, d.Timed) :
    p.predicate.select ds = .ok (ds.filter p.predicate.passes) := by
  refine Predicate.select_eq_ok fun d hd => ?_
  obtain ⟨b, hb, -⟩ := does.admits d (timed d hd)
  exact ⟨b, hb⟩

/-- The documents of an index that pass the filters and match the text, best matches first. -/
theorem ranked_eq_ok (does : p.Does q) (timed : ∀ d ∈ index.documents, d.Timed) :
    ∃ items, p.ranked index = .ok items ∧ (items.map Scored.document).Nodup ∧
      (∀ d n, ⟨d, n⟩ ∈ items ↔ d ∈ index.documents ∧ q.Admits d ∧
        q.matcher.Keeps q.words d ∧ n = q.matcher.total q.words d) ∧
      items.Pairwise (Scored.Ahead index.documents) := by
  have nodup : index.documents.Nodup := index.ids_nodup.of_map
  have mem_selected : ∀ d, d ∈ index.documents.filter p.predicate.passes ↔
      d ∈ index.documents ∧ q.Admits d := by
    intro d
    rw [List.mem_filter]
    exact and_congr_right fun hd => does.passes_iff (timed d hd)
  have given : (index.documents.filter p.predicate.passes).Pairwise fun a b =>
      [a, b].Sublist index.documents := by
    refine List.pairwise_iff_forall_sublist.2 fun sub => ?_
    exact sub.trans List.filter_sublist
  obtain ⟨listed, ranks, listed_nodup, mem_listed, ordered⟩ :=
    @Matcher.rank_keeps q.matcher q.words _ _
      (fun d hd => timed d ((mem_selected d).1 hd).1) (nodup.filter _) given
  refine ⟨listed.map fun hit => ⟨hit.1, hit.2⟩, ?_, ?_, ?_, ?_⟩
  · rw [ranked, does.select_eq_ok timed, does.matcher, does.text]
    show (q.matcher.rank q.words _ >>= fun hits => _) = _
    rw [ranks]
    rfl
  · rw [List.map_map]
    exact listed_nodup
  · intro d n
    rw [← and_assoc, ← mem_selected, ← mem_listed, List.mem_map]
    constructor
    · rintro ⟨⟨e, m⟩, he, eq⟩
      cases eq
      exact he
    · intro hd
      exact ⟨(d, n), hd, rfl⟩
  · refine List.pairwise_map.2 (ordered.imp ?_)
    intro a b before
    exact before

/-- A plan finds what its query does. -/
theorem found_finds (does : p.Does q)
    (sortable : ∀ d ∈ index.documents, d.SortableBy (Sorting.keys q.sort)) :
    ∃ items, (p.found index).result = .ok items ∧ q.Finds index.documents items := by
  obtain ⟨items, ranked, nodup, mem_iff, ordered⟩ :=
    ranked_eq_ok does fun d hd => (sortable d hd).regular.timed
  have sortable_of_mem : ∀ a ∈ items, a.document.SortableBy (Sorting.keys p.sort) := by
    intro a ha
    rw [does.sort]
    exact sortable _ ((mem_iff a.document a.score).1 ha).1
  obtain ⟨sorted, sorts, perm, precedes⟩ :=
    Sorting.sort_precedes sortable_of_mem nodup.of_map ordered
  refine ⟨sorted, ?_, ?_, ?_, ?_⟩
  · rw [found, ranked]
    exact sorts
  · exact (perm.map Scored.document).nodup_iff.2 nodup
  · intro d n
    rw [perm.mem_iff]
    exact mem_iff d n
  · refine ⟨_, Query.sortsBy_iff.2 rfl, ?_⟩
    rw [← does.sort]
    exact precedes

end Found

end Plan

/-! ## What a search reports -/

section Overview

variable {ds : List Document}

/-- Documents can be counted by some fields exactly if they have a key under each of them. -/
theorem Facet.exists_ofFields_iff {fields : List Field} :
    (∃ facets, ofFields fields ds = .ok facets) ↔
      ∀ f ∈ fields, ∀ d ∈ ds, ∃ v, d.key f = .ok v := by
  rw [ofFields_eq, Except.exists_mapM_eq_ok_iff]
  simp only [List.mem_eraseDups, entryOf, Except.exists_map_eq_ok_iff, ofField, keysOf,
    Except.exists_mapM_eq_ok_iff]

theorem exists_dateRange_iff :
    (∃ range, dateRange ds = .ok range) ↔ ∀ d ∈ ds, ∃ m, d.createdMoment? = .ok m := by
  rw [dateRange, Except.exists_map_eq_ok_iff, createdMoments, Except.exists_map_eq_ok_iff,
    Except.exists_mapM_eq_ok_iff]

variable (timed : ∀ d ∈ ds, d.Timed)

include timed

/-- Timed documents can be counted. -/
theorem Facet.ofFields_eq_ok (fs : List Field) : ∃ facets, ofFields fs ds = .ok facets :=
  exists_ofFields_iff.2 fun f _ d hd => (timed d hd).key f

/-- Timed documents have a range of dates. -/
theorem dateRange_eq_ok : ∃ range, dateRange ds = .ok range :=
  exists_dateRange_iff.2 fun d hd => Document.exists_createdMoment?_iff.2 (timed d hd).created

end Overview

theorem Plan.overview_eq_ok {names : List Datum} {ds : List Document}
    {facets : List (Field × Facet.Counts)} {range : Option MomentRange} :
    overview names ds = .ok (facets, range) ↔
      ∃ fields, Facet.resolve names = .ok fields ∧ Facet.ofFields fields ds = .ok facets ∧
        dateRange ds = .ok range := by
  simp only [overview, Except.bind_eq_ok, Except.ok.injEq, Prod.mk.injEq]
  constructor
  · rintro ⟨fields, hfields, _, hfacets, _, hrange, rfl, rfl⟩
    exact ⟨fields, hfields, hfacets, hrange⟩
  · rintro ⟨fields, hfields, hfacets, hrange⟩
    exact ⟨fields, hfields, facets, hfacets, range, hrange, rfl, rfl⟩

/-- The fields that a plan counts are those of its query. -/
theorem Plan.Does.counted {p : Plan} {q : Query} (does : p.Does q) (settings : Settings) :
    (p.facetNames settings >>= Facet.resolve) = q.counted settings := by
  unfold Plan.facetNames Query.counted
  rw [← does.facetNames]
  match p.facetFields with
  | none => rfl
  | some [] => rfl
  | some (name :: names) => rfl

/-- If the usual names are those of fields, so are the names that a query counts. -/
theorem Plan.Does.counted_eq_ok {p : Plan} {q : Query} (does : p.Does q) {settings : Settings}
    (counts : settings.CountsFields) : ∃ fields, q.counted settings = .ok fields := by
  unfold Query.counted
  split
  · obtain ⟨names, fields, hnames, hfields⟩ := counts
    exact ⟨fields, Except.bind_eq_ok.2 ⟨names, hnames, hfields⟩⟩
  · obtain ⟨fields, hfields⟩ : ∃ fields, Facet.resolve (q.facetNames.map .str) = .ok fields := by
      refine Except.exists_mapM_eq_ok ?_
      rw [List.forall_mem_map]
      intro name hname
      obtain ⟨f, hf⟩ := does.facets name hname
      exact ⟨f, Except.mapError_eq_ok.2 hf⟩
    exact ⟨fields, Except.bind_eq_ok.2 ⟨_, rfl, hfields⟩⟩

namespace Engine

variable {settings : Settings} {e : Engine} {index : Index} {millis : Float} {p : Plan} {q : Query}

/-- What carrying out a plan reports. -/
theorem execute_eq_ok {r : SearchResult} :
    (e.execute settings index millis p).result = .ok r ↔
      ∃ items names suggestions facets range, (p.found index).result = .ok items ∧
        p.facetNames settings = .ok names ∧
        (e.consult settings index p).result = .ok suggestions ∧
        Plan.overview names (items.map Scored.document) = .ok (facets, range) ∧
        r = ⟨(p.pageOf items).map p.hit, items.length, p.paging, p.pageCount items.length, millis,
          suggestions, facets, range⟩ := by
  unfold execute
  dsimp only
  cases hf : (p.found index).result with
  | error failure =>
    refine iff_of_false (fun h => nomatch h) ?_
    rintro ⟨items, names, suggestions, facets, range, hitems, -⟩
    cases hitems
  | ok items =>
    cases hn : p.facetNames settings with
    | error failure =>
      refine iff_of_false (fun h => nomatch h) ?_
      rintro ⟨_, names, suggestions, facets, range, -, hnames, -⟩
      cases hnames
    | ok names =>
      refine Reply.result_bind_eq_ok.trans ?_
      constructor
      · rintro ⟨suggestions, hsuggestions, h⟩
        obtain ⟨⟨facets, range⟩, overview, rfl⟩ := Except.map_eq_ok.1 h
        exact ⟨items, names, suggestions, facets, range, rfl, rfl, hsuggestions, overview, rfl⟩
      · rintro ⟨_, _, suggestions, facets, range, hitems, hnames, hsuggestions, overview, rfl⟩
        cases hitems
        cases hnames
        exact ⟨suggestions, hsuggestions, Except.map_eq_ok.2 ⟨(facets, range), overview, rfl⟩⟩

/-- For a query without faults, the plan is carried out. -/
theorem search_eq_execute {p : Plan} (h : Plan.ofQuery settings q = .ok (p, [])) :
    e.search settings index millis q = e.execute settings index millis p := by
  rw [search, h]
  rfl

/-- A query is valid if its fault report is empty. -/
theorem ofQuery_of_validate (valid : (validate settings q).1 = .ok []) :
    ∃ p, Plan.ofQuery settings q = .ok (p, []) := by
  unfold validate at valid
  split at valid
  · cases valid
  · next p faults eq =>
    have none : faults = [] := by simpa using valid
    subst none
    exact ⟨p, eq⟩

/-- Over timed documents and with sound settings a plan is carried out to the end. -/
theorem execute_completes (does : p.Does q) (sound : settings.Sound) {items : List (Scored Nat)}
    (found : (p.found index).result = .ok items)
    (timed : ∀ d ∈ items.map Scored.document, d.Timed) :
    ∃ r, (e.execute settings index millis p).result = .ok r := by
  obtain ⟨fields, counted⟩ := does.counted_eq_ok sound.facets
  rw [← does.counted settings] at counted
  obtain ⟨names, hnames, hfields⟩ := Except.bind_eq_ok.1 counted
  obtain ⟨facets, hfacets⟩ := Facet.ofFields_eq_ok timed fields
  obtain ⟨range, hrange⟩ := dateRange_eq_ok timed
  obtain ⟨suggestions, hsuggestions⟩ := consult_eq_ok sound e index p
  exact ⟨_, execute_eq_ok.2 ⟨items, names, suggestions, facets, range, found, hnames,
    hsuggestions, Plan.overview_eq_ok.2 ⟨fields, hfields, hfacets, hrange⟩, rfl⟩⟩

theorem execute_answers (does : p.Does q) (sound : settings.Sound) {items : List (Scored Nat)}
    (found : (p.found index).result = .ok items)
    (regular : ∀ d ∈ items.map Scored.document, d.Regular) :
    ∃ r, (e.execute settings index millis p).result = .ok r :=
  execute_completes does sound found fun d hd => (regular d hd).timed

/-- Carrying out a plan reports what it found. -/
theorem execute_reports (does : p.Does q) {items : List (Scored Nat)}
    (found : (p.found index).result = .ok items) {r : SearchResult}
    (h : (e.execute settings index millis p).result = .ok r) : r.Reports settings q items := by
  obtain ⟨_, names, suggestions, facets, range, found', hnames, -, overview, rfl⟩ :=
    execute_eq_ok.1 h
  cases found.symm.trans found'
  obtain ⟨fields, hfields, hfacets, hrange⟩ := Plan.overview_eq_ok.1 overview
  refine ⟨rfl, ?_, ⟨fields, ?_, hfacets⟩, hrange⟩
  · show ((p.pageOf items).map p.hit).map Hit.scored = _
    rw [List.map_map, Plan.pageOf, Plan.offset, does.paging]
    exact List.map_id _
  · rw [← does.counted settings, hnames]
    exact hfields

/-- Over documents that can be sorted a valid query finds one list of items, and every search for it
reports that list. -/
theorem search_finds (settings : Settings) (e : Engine) (index : Index) (millis : Float) (q : Query)
    (sortable : ∀ d ∈ index.documents, d.SortableBy (Sorting.keys q.sort))
    (valid : (validate settings q).1 = .ok []) :
    ∃ items, (∀ other, q.Finds index.documents other ↔ other = items) ∧
      (settings.Sound → ∃ r, (e.search settings index millis q).result = .ok r) ∧
      ∀ r, (e.search settings index millis q).result = .ok r → r.Reports settings q items := by
  obtain ⟨p, hp⟩ := ofQuery_of_validate valid
  have does : p.Does q := Plan.does_of_ofQuery hp
  have regular : ∀ d ∈ index.documents, d.Regular := fun d hd => (sortable d hd).regular
  obtain ⟨items, found, finds⟩ := Plan.found_finds does sortable
  have search_eq : e.search settings index millis q = e.execute settings index millis p := by
    rw [search, hp]
    rfl
  rw [search_eq]
  refine ⟨items, ?_, ?_, ?_⟩
  · intro other
    constructor
    · intro h
      exact h.unique regular index.ids_nodup.of_map finds
    · rintro rfl
      exact finds
  · intro sound
    refine execute_answers does sound found ?_
    rw [List.forall_mem_map]
    intro a ha
    exact regular _ ((finds.mem_iff a.document a.score).1 ha).1
  · intro r hr
    exact execute_reports does found hr

end Engine

/-! ## Two lamps

Three orders, of which one was cancelled, and a search for lamps at a price that were not. -/

namespace Lamps

/-- An order of lamps without dates. -/
def order (id note : String) (status : Option String) (amount : Float) : Document where
  id := id
  orderNumber := id
  customerName := ""
  customerEmail := ""
  status := status
  paymentStatus := none
  fulfillmentStatus := none
  totalAmount := amount
  createdAt := none
  updatedAt := none
  shippingAddress := none
  billingAddress := none
  notes := note
  searchableText := note

/-- The three orders. -/
def index : Index where
  documents := [order "A" "A lamp" (some "PENDING") 20, order "B" "lamp" none 30,
    order "C" "lamps" (some "CANCELLED") 40]
  ids_nodup := by decide

/-- The search. -/
def query : Query := .advanced {
  text := some "Lamp"
  fields := none
  filters := [⟨"status", "equals", .str "CANCELLED", .all⟩]
  combinator := .notFirst
  dateRange := none
  numberRange := some ⟨"totalAmount", 10, 1000⟩
  sort := [⟨"status", .ascending⟩]
  paging := .default
  options := .default }

theorem regular_order {id note : String} {status : Option String} {amount : Float}
    (number : Double.isNotANumber amount = false) : (order id note status amount).Regular :=
  ⟨number, fun _ h => (nomatch h), fun _ h => (nomatch h)⟩

theorem sortable_order {id note : String} {status : Option String} {amount : Float}
    (number : Double.isNotANumber amount = false) (noNul : ∀ s ∈ status, '\x00' ∉ s.toList) :
    (order id note status amount).SortableBy (Sorting.keys query.sort) := by
  refine ⟨regular_order number, ?_⟩
  intro k hk f hf s hs
  obtain rfl := List.mem_singleton.1 hk
  cases hf
  cases status with
  | none => cases hs
  | some t =>
    cases hs
    exact noNul _ rfl

theorem sortable : ∀ d ∈ index.documents, d.SortableBy (Sorting.keys query.sort) := by
  refine List.forall_mem_cons.2 ⟨?_, List.forall_mem_cons.2 ⟨?_, List.forall_mem_singleton.2 ?_⟩⟩
  · exact sortable_order (by decide) (by decide)
  · exact sortable_order (by decide) (by decide)
  · exact sortable_order (by decide) (by decide)

theorem valid : (Engine.validate .default query).1 = .ok [] := rfl

end Lamps

/-- The search for lamps finds one list of items and reports it. -/
theorem Engine.search_finds_lamps :
    (∀ d ∈ Lamps.index.documents, d.SortableBy (Sorting.keys Lamps.query.sort)) ∧
      (validate .default Lamps.query).1 = .ok [] ∧
      ∃ items r, (∀ other, Lamps.query.Finds Lamps.index.documents other ↔ other = items) ∧
        ((start none).search .default Lamps.index 0 Lamps.query).result = .ok r ∧
        r.Reports .default Lamps.query items := by
  obtain ⟨items, unique, found, reports⟩ :=
    search_finds .default (start none) Lamps.index 0 Lamps.query Lamps.sortable Lamps.valid
  obtain ⟨r, hr⟩ := found Settings.sound_default
  exact ⟨Lamps.sortable, Lamps.valid, items, r, unique, hr, reports r hr⟩

end OrderRetrieval

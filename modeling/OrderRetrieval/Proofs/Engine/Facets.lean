import OrderRetrieval.Proofs.Engine.Conjunction
import OrderRetrieval.Proofs.Engine.Drill
import OrderRetrieval.Proofs.Facet.Exact
import OrderRetrieval.Proofs.Filter.AllOrNone
import OrderRetrieval.Proofs.Sorting.Iterated

/-!
# Two ways to count

A search without words finds all documents that meet its filters, in the order of its sort keys
(`Plan.select_of_found`); to count without searching is to count the same documents in the order of
the index (`Index.facets_eq_ok`).  Both give every value the same number, which is exact
(`Facet.facets_exact`).
-/

namespace OrderRetrieval

namespace Query

/-- Whether a query looks for the documents that meet all of some conditions. -/
def Conjoins : Query → List Condition → Prop
  | simple q, cs => cs = q.filters
  | advanced q, cs => q.combinator = .all ∧ cs = q.conjunction.filters

/-- Whether some names ask for the fields that a query counts; for the usual ones none is given. -/
def AsksFor (q : Query) (names : Datum) : Prop :=
  names = .arr (q.facetNames.map .str) ∨ (q.facetNames = [] ∧ names = .null)

end Query

section Selected

variable {settings : Settings} {index : Index} {p : Plan} {q : Query} {cs : List Condition}

theorem Plan.compileAll_of_ofSimple {q : SimpleQuery} (h : ofSimple settings q = .ok (p, [])) :
    Condition.compileAll q.filters = .ok p.predicate := by
  obtain ⟨⟨tests, faults⟩, compiled, eq⟩ := Except.map_eq_ok.1 h
  obtain ⟨rfl, none⟩ := Prod.mk.inj eq
  obtain rfl : faults = [] := (List.append_eq_nil_iff.1 none).2
  exact Condition.compileAll_eq_ok compiled

/-- The plan of a conjunction selects the documents that meet its conditions. -/
theorem Query.Conjoins.compileAll (h : q.Conjoins cs)
    (planned : Plan.ofQuery settings q = .ok (p, [])) :
    Condition.compileAll cs = .ok p.predicate := by
  cases q with
  | simple q =>
    obtain rfl : cs = q.filters := h
    exact Plan.compileAll_of_ofSimple planned
  | advanced q =>
    obtain ⟨all, rfl⟩ := h
    have simple : Plan.ofSimple settings q.conjunction = .ok (p.withNames, []) := by
      rw [Plan.ofSimple_conjunction settings all]
      exact Except.map_eq_ok.2 ⟨(p, []), planned, rfl⟩
    have compiled := Plan.compileAll_of_ofSimple simple
    exact compiled

/-- Without words a plan finds all documents that it selects. -/
theorem Plan.select_of_found {items : List (Scored Nat)} (wordless : queryWords? p.text = [])
    (h : (p.found index).result = .ok items) :
    ∃ selected, p.predicate.select index.documents = .ok selected ∧
      (items.map Scored.document).Perm selected := by
  unfold found at h
  cases ranked : p.ranked index with
  | error e =>
    rw [ranked] at h
    cases h
  | ok hits =>
    rw [ranked] at h
    obtain ⟨selected, hselected, ranked⟩ := Except.bind_eq_ok.1 ranked
    obtain ⟨matcher, -, ranked⟩ := Except.bind_eq_ok.1 ranked
    rw [wordless] at ranked
    obtain rfl : (selected.map (·, 0)).map (fun hit => ⟨hit.1, hit.2⟩) = hits :=
      Except.ok.inj ranked
    refine ⟨selected, hselected, ?_⟩
    have perm := (Sorting.sort_perm h).map Scored.document
    rw [List.map_map, List.map_map] at perm
    exact perm.trans (.of_eq (List.map_id selected))

end Selected

section Counted

variable {settings : Settings} {index : Index} {q : Query} {names : Datum}

theorem Query.AsksFor.counted (h : q.AsksFor names) (settings : Settings) :
    ((names.orElse settings.facetFields).parts >>= Facet.resolve) = q.counted settings := by
  unfold Query.counted
  rcases h with rfl | ⟨none, rfl⟩
  · cases q.facetNames <;> rfl
  · rw [none]
    rfl

theorem resolve_of_facets {names : List Datum} {fields : List Field}
    (h : Facet.resolve names = .ok fields) : ∀ name ∈ names, ∃ f, Field.resolve name = .ok f := by
  intro name mem
  obtain ⟨f, hf⟩ := Except.exists_of_mapM_eq_ok h name mem
  exact ⟨f, Except.mapError_eq_ok.1 hf⟩

/-- Counting without searching counts the documents that meet the conditions. -/
theorem Index.facets_eq_ok {fields : List Field} {cs : List Condition} {ds : List Document}
    {facets : List (Field × Facet.Counts)}
    (named : ((names.orElse settings.facetFields).parts >>= Facet.resolve) = .ok fields)
    (filtered : index.filtered cs = .ok ds) (counted : Facet.ofFields fields ds = .ok facets) :
    index.facets settings names cs = .ok facets := by
  obtain ⟨parts, hparts, resolved⟩ := Except.bind_eq_ok.1 named
  have faultless : Plan.fieldFaults parts = [] :=
    Plan.fieldFaults_eq_nil_iff.2 (resolve_of_facets resolved)
  have passed : refuse (Plan.fieldFaults parts) = .ok () := by
    rw [faultless]
    rfl
  exact Except.bind_eq_ok.2 ⟨parts, hparts, Except.bind_eq_ok.2 ⟨(), passed,
    Except.bind_eq_ok.2 ⟨ds, filtered, Except.bind_eq_ok.2 ⟨fields, resolved, counted⟩⟩⟩⟩

end Counted

/-- The facets of a search without words are those that are counted without searching. -/
theorem Engine.facets_of_search {settings : Settings} {e : Engine} {index : Index} {millis : Float}
    {q : Query} {names : Datum} {cs : List Condition} {r : SearchResult} (wordless : q.words = [])
    (conjoins : q.Conjoins cs) (asks : q.AsksFor names)
    (h : (e.search settings index millis q).result = .ok r) :
    ∃ facets, index.facets settings names cs = .ok facets ∧ Facet.SameMaps r.facets facets := by
  obtain ⟨p, planned, executed⟩ := plan_of_search h
  have does : p.Does q := Plan.does_of_ofQuery planned
  obtain ⟨items, -, -, -, -, found, -⟩ := execute_eq_ok.1 executed
  obtain ⟨fields, counted, facets⟩ := (execute_reports does found executed).facets
  rw [Query.words, ← does.text] at wordless
  obtain ⟨selected, select, perm⟩ := Plan.select_of_found wordless found
  obtain ⟨facets', counted', same⟩ := Facet.exists_ofFields_perm facets perm
  have filtered : index.filtered cs = .ok selected :=
    Except.bind_eq_ok.2 ⟨p.predicate, conjoins.compileAll planned, select⟩
  rw [← asks.counted settings] at counted
  exact ⟨facets', Index.facets_eq_ok counted filtered counted', same⟩

/-- **Facets are exact.**  Over regular documents there is one facet for each different field, and
it is exact.  The documents may come in any order without any value getting another number, and so a
search without words that looks for all documents that meet some conditions has the facets that are
counted without searching. -/
theorem Facet.facets_exact :
    (∀ (fs : List Field) (ds : List Document), (∀ d ∈ ds, d.Regular) →
      ∃ facets, ofFields fs ds = .ok facets ∧ facets.map Prod.fst = fs.eraseDups ∧
        (∀ f counts, (f, counts) ∈ facets → counts.Exact f ds) ∧
        ∀ ds', ds.Perm ds' →
          ∃ facets', ofFields fs ds' = .ok facets' ∧ SameMaps facets facets') ∧
    ∀ (settings : Settings) (index : Index) (q : Query) (names : Datum) (cs : List Condition),
      q.words = [] → q.Conjoins cs → q.AsksFor names →
      (∀ (e : Engine) (millis : Float) (r : SearchResult),
        (e.search settings index millis q).result = .ok r →
        ∃ facets, index.facets settings names cs = .ok facets ∧ SameMaps r.facets facets) ∧
      ((∀ d ∈ index.documents, d.SortableBy (Sorting.keys q.sort)) →
        (Engine.validate settings q).1 = .ok [] → settings.Sound →
        ∀ (e : Engine) (millis : Float),
          ∃ r, (e.search settings index millis q).result = .ok r) := by
  constructor
  · intro fs ds regular
    obtain ⟨facets, counted⟩ := ofFields_eq_ok (fun d hd => (regular d hd).timed) fs
    obtain ⟨fields, each⟩ := facet_of_ofFields counted
    refine ⟨facets, counted, fields, fun f counts mem => ?_,
      fun ds' => exists_ofFields_perm counted⟩
    exact exact_of_ofField regular (each (f, counts) mem)
  · intro settings index q names cs wordless conjoins asks
    refine ⟨fun e millis r => Engine.facets_of_search wordless conjoins asks, ?_⟩
    intro sortable valid sound e millis
    obtain ⟨p, planned⟩ := Engine.ofQuery_of_validate valid
    obtain ⟨items, -, finds⟩ := Plan.found_finds (Plan.does_of_ofQuery planned) sortable
    exact (finds.answered sortable planned).answered sound e millis

/-- Lamps are counted by status, whether they are searched for or not. -/
theorem Facet.facets_exact_lamps :
    (∃ facets, ofFields [.status, .totalAmount, .status] Lamps.index.documents = .ok facets ∧
      facets.map Prod.fst = [.status, .totalAmount] ∧
      ∀ f counts, (f, counts) ∈ facets → counts.Exact f Lamps.index.documents) ∧
    ∃ r facets,
      ((Engine.start none).search .default Lamps.index 0 (.simple Lamps.byStatus)).result = .ok r ∧
      Lamps.index.facets .default (.arr [.str "status"]) [] = .ok facets ∧
      SameMaps r.facets facets := by
  obtain ⟨counted, searched⟩ := facets_exact
  obtain ⟨facets, made, fields, exact, -⟩ := counted [.status, .totalAmount, .status]
    Lamps.index.documents fun d hd => (Lamps.sortable_byStatus d hd).regular
  obtain ⟨same, answers⟩ := searched .default Lamps.index (.simple Lamps.byStatus)
    (.arr [.str "status"]) [] rfl rfl (.inl rfl)
  obtain ⟨r, hr⟩ := answers Lamps.sortable_byStatus Lamps.valid_byStatus Settings.sound_default
    (Engine.start none) 0
  obtain ⟨facets', counted', maps⟩ := same (Engine.start none) 0 r hr
  exact ⟨⟨facets, made, fields, exact⟩, r, facets', hr, counted', maps⟩

end OrderRetrieval

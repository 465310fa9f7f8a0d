import OrderRetrieval.Proofs.Engine.Halt
import OrderRetrieval.Proofs.Engine.Validation
import OrderRetrieval.Service.Basic

/-!
# When a search is rejected

A search is rejected exactly if validation reports something, and then for the faults that
validation reports, in the same order (`Service.search_rejects`).  The faults are found part by part
(`Inspection`), in whatever form the query is given.  A rejected search leaves everything as it was.
-/

namespace OrderRetrieval

/-- What is wrong with a query, part by part. -/
structure Inspection where
  page : List QueryFault
  limit : List QueryFault
  threshold : List QueryFault
  searchFields : List QueryFault
  facetFields : List QueryFault
  filters : List QueryFault
  dates : List QueryFault
  numbers : List QueryFault

/-- The faults in the order of the parts. -/
def Inspection.faults (i : Inspection) : List QueryFault :=
  i.page ++ i.limit ++ i.threshold ++ i.searchFields ++ i.facetFields ++ i.filters ++ i.dates ++
    i.numbers

/-- What is wrong with the number of a page. -/
def Paging.pageFaults (p : Paging) : List QueryFault :=
  if 1 ≤ p.page then [] else [.pageTooSmall p.page]

/-- What is wrong with the size of a page. -/
def Paging.limitFaults (p : Paging) (maximum : Quantity) : List QueryFault :=
  if 1 ≤ p.limit ∧ maximum.lt (.whole p.limit) = false then []
  else [.limitOutOfBounds p.limit maximum]

/-- What is wrong with the similarity that fuzzy matching asks for. -/
def Options.thresholdFaults (o : Options) : List QueryFault :=
  if Double.le 0 o.fuzzyThreshold ∧ Double.le o.fuzzyThreshold 1 then []
  else [.thresholdOutOfBounds o.fuzzyThreshold]

/-- The names among some that no field has. -/
def unknownNames (names : List String) : List String :=
  names.filter fun name => (Field.ofName? name).isNone

/-- Whether the faults of a query in each of its parts are those of an inspection. -/
structure Query.Inspected (settings : Settings) (q : Query) (i : Inspection) : Prop where
  page : i.page = q.paging.pageFaults
  limit : i.limit = q.paging.limitFaults settings.maxPageSize
  threshold : i.threshold = q.options.thresholdFaults
  searchFields : i.searchFields = (unknownNames q.fieldNames).map .unsupportedField
  facetFields : i.facetFields = (unknownNames q.facetNames).map .unsupportedField
  filters : Condition.Reported q.filters i.filters
  dates : Condition.Reported q.dateFilters i.dates
  numbers : Condition.Reported q.numberFilters i.numbers

namespace Plan

variable {settings : Settings} {q : Query} {all : List QueryFault}

theorem boundFaults_eq (p : Paging) (o : Options) :
    boundFaults settings p o =
      p.pageFaults ++ p.limitFaults settings.maxPageSize ++ o.thresholdFaults := by
  have page : 1 ≤ p.page ↔ ¬p.page < 1 := Int.not_lt.symm
  have limit : 1 ≤ p.limit ∧ settings.maxPageSize.lt (.whole p.limit) = false ↔
      ¬(p.limit < 1 ∨ settings.maxPageSize.lt (.whole p.limit) = true) := by simp
  simp only [boundFaults, Paging.pageFaults, Paging.limitFaults, Options.thresholdFaults, page,
    limit, ite_not, Bool.and_eq_true]

theorem fieldFaults_map_str (names : List String) :
    fieldFaults (names.map .str) = (unknownNames names).map .unsupportedField := by
  induction names with
  | nil => rfl
  | cons name names ih =>
    simp only [fieldFaults, unknownNames, List.map_cons, List.filterMap_cons, List.filter_cons,
      Field.resolve] at ih ⊢
    cases Field.ofName? name with
    | none => simpa using ih
    | some f => simpa using ih

theorem conditions_eq (q : Query) :
    q.conditions = q.filters ++ (q.dateFilters ++ q.numberFilters) := by
  cases q with
  | simple q => exact (List.append_nil q.filters).symm
  | advanced q => rfl

/-- The faults that are found while a query is planned are those of its inspection. -/
theorem exists_ofQuery_iff_inspected :
    (∃ p, ofQuery settings q = .ok (p, all)) ↔ ∃ i, q.Inspected settings i ∧ all = i.faults := by
  rw [exists_ofQuery_iff]
  simp only [conditions_eq, Condition.reported_append_iff, Query.ownFaults, fieldFaults_map_str]
  constructor
  · rintro ⟨_, ⟨filters, _, hfilters, ⟨dates, numbers, hdates, hnumbers, rfl⟩, rfl⟩, rfl⟩
    refine ⟨⟨q.paging.pageFaults, q.paging.limitFaults settings.maxPageSize,
        q.options.thresholdFaults, (unknownNames q.fieldNames).map .unsupportedField,
        (unknownNames q.facetNames).map .unsupportedField, filters, dates, numbers⟩,
      ⟨rfl, rfl, rfl, rfl, rfl, hfilters, hdates, hnumbers⟩, ?_⟩
    simp only [Inspection.faults, boundFaults_eq, List.append_assoc]
  · rintro ⟨i, h, rfl⟩
    refine ⟨_, ⟨_, _, h.filters, ⟨_, _, h.dates, h.numbers, rfl⟩, rfl⟩, ?_⟩
    simp only [Inspection.faults, h.page, h.limit, h.threshold, h.searchFields, h.facetFields,
      boundFaults_eq, List.append_assoc]

/-- Planning a query fails only where a condition overflows. -/
theorem ofQuery_overflows : Except.FailsOnly Failure.IsOverflow (ofQuery settings q) := by
  cases q with
  | simple q => exact Except.failsOnly_map.2 Condition.compileEach_overflows
  | advanced q =>
    refine Except.failsOnly_bind.2 ⟨Condition.compileEach_overflows, fun compiled _ => ?_⟩
    exact Except.failsOnly_bind_ok.2 Condition.compileEach_overflows

end Plan

theorem Failure.IsOverflow.not_rejected {r : Rejection} : ¬IsOverflow (rejected r) := by
  rintro (h | h)
  · cases h
  · cases h

namespace Engine

variable {settings : Settings} {e : Engine} {index : Index} {millis : Float} {q : Query}
  {r : Rejection}

/-- A search with faults is rejected for them and leaves the engine alone. -/
theorem search_of_faults {p : Plan} (h : Plan.ofQuery settings q = .ok (p, r.faults)) :
    e.search settings index millis q =
      ⟨.error (.rejected r), e, [.queryRejected r.faults.length]⟩ := by
  rw [search, h]
  simp only [Rejection.ofFaults?_eq_some_iff.2 rfl]

/-- A search is rejected only for faults that are found while it is planned. -/
theorem search_eq_rejected_iff (counts : settings.CountsFields) :
    (e.search settings index millis q).result = .error (.rejected r) ↔
      ∃ p, Plan.ofQuery settings q = .ok (p, r.faults) := by
  constructor
  · intro h
    cases planned : Plan.ofQuery settings q with
    | error failure =>
      rw [search, planned] at h
      cases h
      exact absurd (Plan.ofQuery_overflows _ planned) Failure.IsOverflow.not_rejected
    | ok plan =>
      obtain ⟨p, faults⟩ := plan
      cases faults with
      | nil =>
        -- Without faults the search is carried out, and then it is not rejected.
        rw [search_eq_execute planned] at h
        exact (execute_failsOnly counts planned millis _ h).elim
      | cons fault faults =>
        rw [search_of_faults (r := ⟨fault, faults⟩) planned] at h
        cases h
        exact ⟨p, rfl⟩
  · rintro ⟨p, planned⟩
    rw [search_of_faults planned]

end Engine

namespace Muddle

/-- A query that is wrong in its page, in its fields, in its filter and in its range of numbers. -/
def query : Query := .advanced {
  text := none
  fields := some ["notes", "color"]
  filters := [⟨"status", "equals", .null, .all⟩]
  combinator := .any
  dateRange := none
  numberRange := some ⟨"weight", 1, 2⟩
  sort := []
  paging := ⟨0, 20⟩
  options := .default }

theorem day_lt_span : 738886 * Calendar.day < Calendar.span := by
  decide

/-- A service whose index is empty. -/
def service : Service := .start .default (.memory .empty) none
  (.ofUtc ⟨738886 * Calendar.day, day_lt_span⟩)

end Muddle

namespace Service

variable {s : Service} {q : Query} {r : Rejection}

theorem validate_result (s : Service) (q : Query) :
    (s.validate q).result = (Engine.validate s.settings q).1 := rfl

theorem search_result (s : Service) (q : Query) :
    (s.search q).result = (s.engine.search s.settings s.index s.millis q).result := rfl

theorem search_eq_rejected_iff (counts : s.settings.CountsFields) :
    (s.search q).result = .error (.rejected r) ↔
      ∃ p, Plan.ofQuery s.settings q = .ok (p, r.faults) :=
  Engine.search_eq_rejected_iff counts

/-- A search that is rejected leaves the service alone. -/
theorem search_state_of_rejected (counts : s.settings.CountsFields)
    (rejected : (s.search q).result = .error (.rejected r)) : (s.search q).state = s := by
  obtain ⟨p, planned⟩ := (search_eq_rejected_iff counts).1 rejected
  rw [search, Engine.search_of_faults planned]
  rfl

/-- **Validation and search agree.**  Validation reports something exactly if a search for the query
is rejected, and then for the faults that are reported, part by part; a single fault is the failure
itself.  Then the service is left as it was.  Where validation fails, the search fails alike, but is
not rejected. -/
theorem search_rejects (s : Service) (q : Query) (counts : s.settings.CountsFields) :
    (∀ errors, (s.validate q).result = .ok errors ∧ errors ≠ [] ↔
        ∃ r, (s.search q).result = .error (.rejected r) ∧ r.errors = errors) ∧
      (∀ r, (s.search q).result = .error (.rejected r) →
        (∃ i, q.Inspected s.settings i ∧ r.faults = i.faults) ∧
        (∀ fault, r.faults = [fault] → (s.search q).result = .error (.ofFault fault)) ∧
        (s.search q).state = s) ∧
      ∀ e, (s.validate q).result = .error e →
        (s.search q).result = .error e ∧ e.IsOverflow := by
  refine ⟨fun errors => ?_, fun r h => ⟨?_, ?_, search_state_of_rejected counts h⟩, fun e h => ?_⟩
  · rw [validate_result, Engine.validate_eq_ok_iff_planned]
    simp only [search_eq_rejected_iff counts]
    constructor
    · rintro ⟨⟨faults, ⟨p, planned⟩, rfl⟩, some⟩
      cases faults with
      | nil => exact absurd rfl some
      | cons fault faults => exact ⟨⟨fault, faults⟩, ⟨p, planned⟩, rfl⟩
    · rintro ⟨r, ⟨p, planned⟩, rfl⟩
      exact ⟨⟨r.faults, ⟨p, planned⟩, rfl⟩, List.cons_ne_nil _ _⟩
  · exact Plan.exists_ofQuery_iff_inspected.1 ((search_eq_rejected_iff counts).1 h)
  · intro fault single
    rcases r with ⟨first, others⟩
    cases single
    exact h
  · rw [validate_result, Engine.validate_eq_error_iff] at h
    refine ⟨?_, Plan.ofQuery_overflows e h⟩
    rw [search_result, Engine.search, h]
    rfl

/-- The faults of a query come in the order of its parts, and the search for it is rejected for them
without a trace. -/
theorem search_rejects_muddle : Settings.default.CountsFields ∧
    ∃ r, (Muddle.service.search Muddle.query).result = .error (.rejected r) ∧
      r.errors = ["page must be >= 1, got 0", "Unsupported field: color",
        "Operator 'equals' on field 'status' requires a value", "Unsupported field: weight"] ∧
      (Muddle.service.search Muddle.query).state = Muddle.service := by
  have counts : Muddle.service.settings.CountsFields := Settings.sound_default.facets
  obtain ⟨agree, left, -⟩ := search_rejects Muddle.service Muddle.query counts
  obtain ⟨r, rejected, errors⟩ := (agree _).1 ⟨rfl, List.cons_ne_nil _ _⟩
  exact ⟨counts, r, rejected, errors, (left r rejected).2.2⟩

end Service

end OrderRetrieval

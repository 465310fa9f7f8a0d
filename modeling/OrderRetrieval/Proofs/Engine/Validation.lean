import OrderRetrieval.Engine.Search
import OrderRetrieval.Proofs.Filter.Verdict
import OrderRetrieval.Proofs.Query.Meaning

/-!
# What validation reports

The faults of a query are its own, in page, options and names of fields, followed by those of its
conditions.  Validation lists them all unless one of the conditions overflows
(`Engine.validate_reports`).
-/

namespace OrderRetrieval

namespace Query

/-- The conditions of a query: its filters, and after them its ranges. -/
def conditions : Query → List Condition
  | simple q => q.filters
  | advanced q => q.filters ++ Plan.rangeConditions q

/-- The faults of a query in its page, its options and its names of fields. -/
def ownFaults (settings : Settings) (q : Query) : List QueryFault :=
  Plan.boundFaults settings q.paging q.options ++ Plan.fieldFaults (q.fieldNames.map .str) ++
    Plan.fieldFaults (q.facetNames.map .str)

end Query

namespace Condition

variable {cs ds : List Condition} {faults : List QueryFault}

/-- Conditions are reported in two parts as they are together. -/
theorem reported_append_iff :
    Reported (cs ++ ds) faults ↔ ∃ before after, Reported cs before ∧ Reported ds after ∧
      faults = before ++ after := by
  constructor
  · intro h
    induction cs generalizing faults with
    | nil => exact ⟨[], faults, .nil, h, rfl⟩
    | cons c cs ih =>
      cases h with
      | compiled compiles rest =>
        obtain ⟨before, after, first, second, rfl⟩ := ih rest
        exact ⟨before, after, .compiled compiles first, second, rfl⟩
      | refused refuses rest =>
        obtain ⟨before, after, first, second, rfl⟩ := ih rest
        exact ⟨_ :: before, after, .refused refuses first, second, rfl⟩
  · rintro ⟨before, after, first, second, rfl⟩
    exact first.append second

theorem exists_reported_iff : (∃ faults, Reported cs faults) ↔ ∀ c ∈ cs, ¬c.Overflows := by
  constructor
  · rintro ⟨faults, h⟩
    exact h.not_overflows
  · exact exists_reported

end Condition

namespace Plan

variable {settings : Settings} {all : List QueryFault}

/-- The faults of a simple query. -/
theorem exists_ofSimple_iff {q : SimpleQuery} :
    (∃ p, ofSimple settings q = .ok (p, all)) ↔ ∃ faults, Condition.Reported q.filters faults ∧
      all = (Query.simple q).ownFaults settings ++ faults := by
  unfold ofSimple
  simp only [Except.map_eq_ok]
  constructor
  · rintro ⟨p, ⟨tests, faults⟩, compiled, eq⟩
    obtain ⟨-, rfl⟩ := Prod.mk.inj eq
    exact ⟨faults, Condition.exists_compileEach_iff.1 ⟨tests, compiled⟩, rfl⟩
  · rintro ⟨faults, reported, rfl⟩
    obtain ⟨tests, compiled⟩ := Condition.exists_compileEach_iff.2 reported
    exact ⟨_, (tests, faults), compiled, rfl⟩

/-- An advanced query names no fields to count. -/
theorem ownFaults_advanced (q : AdvancedQuery) :
    (Query.advanced q).ownFaults settings = boundFaults settings q.paging q.options ++
      fieldFaults ((q.fields.getD []).map .str) :=
  List.append_nil _

/-- The faults of an advanced query. -/
theorem exists_ofAdvanced_iff {q : AdvancedQuery} :
    (∃ p, ofAdvanced settings q = .ok (p, all)) ↔
      ∃ faults, Condition.Reported (q.filters ++ rangeConditions q) faults ∧
        all = (Query.advanced q).ownFaults settings ++ faults := by
  unfold ofAdvanced
  rw [ownFaults_advanced]
  simp only [Except.bind_eq_ok]
  constructor
  · rintro ⟨p, ⟨tests, faults⟩, compiled, ⟨ranges, rangeFaults⟩, compiledRanges, eq⟩
    cases eq
    have filters := Condition.exists_compileEach_iff.1 ⟨tests, compiled⟩
    have rest := Condition.exists_compileEach_iff.1 ⟨ranges, compiledRanges⟩
    exact ⟨faults ++ rangeFaults, filters.append rest, List.append_assoc _ _ _⟩
  · rintro ⟨faults, reported, rfl⟩
    obtain ⟨before, after, first, second, rfl⟩ := Condition.reported_append_iff.1 reported
    obtain ⟨tests, compiled⟩ := Condition.exists_compileEach_iff.2 first
    obtain ⟨ranges, compiledRanges⟩ := Condition.exists_compileEach_iff.2 second
    rw [← List.append_assoc]
    exact ⟨_, (tests, before), compiled, (ranges, after), compiledRanges, rfl⟩

/-- The faults of a query are its own and those of its conditions. -/
theorem exists_ofQuery_iff {q : Query} :
    (∃ p, ofQuery settings q = .ok (p, all)) ↔ ∃ faults, Condition.Reported q.conditions faults ∧
      all = q.ownFaults settings ++ faults := by
  cases q with
  | simple q => exact exists_ofSimple_iff
  | advanced q => exact exists_ofAdvanced_iff

end Plan

namespace Engine

variable {settings : Settings} {q : Query}

/-- Validation lists the faults that are found while the query is planned. -/
theorem validate_eq_ok_iff_planned {messages : List String} :
    (validate settings q).1 = .ok messages ↔
      ∃ all, (∃ p, Plan.ofQuery settings q = .ok (p, all)) ∧
        messages = all.map QueryFault.message := by
  unfold validate
  cases Plan.ofQuery settings q with
  | error e => simp
  | ok planned =>
    obtain ⟨p, all⟩ := planned
    simp [eq_comm]

/-- Validation fails as planning fails. -/
theorem validate_eq_error_iff {failure : Failure} :
    (validate settings q).1 = .error failure ↔ Plan.ofQuery settings q = .error failure := by
  unfold validate
  cases Plan.ofQuery settings q with
  | error e => simp
  | ok planned => simp

/-- Validating a query lists its own faults and those of its conditions. -/
theorem validate_eq_ok_iff {messages : List String} :
    (validate settings q).1 = .ok messages ↔ ∃ faults, Condition.Reported q.conditions faults ∧
      messages = (q.ownFaults settings ++ faults).map QueryFault.message := by
  rw [validate_eq_ok_iff_planned]
  simp only [Plan.exists_ofQuery_iff]
  constructor
  · rintro ⟨all, ⟨faults, reported, rfl⟩, rfl⟩
    exact ⟨faults, reported, rfl⟩
  · rintro ⟨faults, reported, rfl⟩
    exact ⟨_, ⟨faults, reported, rfl⟩, rfl⟩

/-- Validating conditions, alone or in a query, comes to an end exactly if none of them overflows.
Then each of them has compiled or is reported as one fault, and the query's own faults are listed
before them.  Otherwise it fails because of a date or a number out of range. -/
theorem validate_reports (settings : Settings) (q : Query) (cs : List Condition) :
    (∀ faults, Condition.validate cs = .ok faults ↔ Condition.Reported cs faults) ∧
      ((∃ faults, Condition.validate cs = .ok faults) ↔ ∀ c ∈ cs, ¬c.Overflows) ∧
      Except.FailsOnly Failure.IsOverflow (Condition.validate cs) ∧
      (∀ messages, (validate settings q).1 = .ok messages ↔
        ∃ faults, Condition.Reported q.conditions faults ∧
          messages = (q.ownFaults settings ++ faults).map QueryFault.message) ∧
      ((∃ messages, (validate settings q).1 = .ok messages) ↔
        ∀ c ∈ q.conditions, ¬c.Overflows) := by
  refine ⟨fun faults => Condition.validate_eq_ok_iff, ?_, ?_,
    fun messages => validate_eq_ok_iff, ?_⟩
  · simp only [Condition.validate_eq_ok_iff]
    exact Condition.exists_reported_iff
  · exact Except.failsOnly_map.2 Condition.compileEach_overflows
  · rw [← Condition.exists_reported_iff]
    simp only [validate_eq_ok_iff]
    constructor
    · rintro ⟨messages, faults, reported, rfl⟩
      exact ⟨faults, reported⟩
    · rintro ⟨faults, reported⟩
      exact ⟨_, faults, reported, rfl⟩

/-- Validation fails on an amount too large for a double, on the last day of the calendar and on a
timestamp whose offset leads out of the calendar. -/
theorem not_validates_overflow :
    ¬(∃ faults, Condition.validate [⟨"totalAmount", "equals", .int (10 ^ 400), .all⟩] = .ok faults) ∧
      ¬(∃ faults, Condition.validate [⟨"createdAt", "equals", .str "9999-12-31", .all⟩] =
        .ok faults) ∧
      ¬(∃ faults, Condition.validate
        [⟨"createdAt", "less_than", .str "0001-01-01T00:00:00+01:00", .all⟩] = .ok faults) := by
  refine ⟨?_, ?_, ?_⟩
  · simp only [Condition.validate_eq_ok_iff, Condition.exists_reported_iff]
    intro fits
    have tooLarge : Double.ofInt? (10 ^ 400) = none :=
      Option.isNone_iff_eq_none.1 (by decide +kernel)
    exact fits _ List.mem_cons_self ⟨.totalAmount, .equals, rfl,
      .inl (FieldKind.overflowsFirst_singleton.2 ⟨10 ^ 400, rfl, tooLarge⟩)⟩
  · rintro ⟨faults, ⟨⟩⟩
  · rintro ⟨faults, ⟨⟩⟩

end Engine

end OrderRetrieval

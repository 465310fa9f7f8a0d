import OrderRetrieval.Engine.Search
import OrderRetrieval.Proofs.Query.Meaning

/-!
# Advanced queries that are simple

An advanced query all of whose filters have to hold says the same as a simple one that has its
ranges among its filters (`AdvancedQuery.conjunction`).  The two are planned differently: the ranges
are compiled apart and combined with what the filters come to, and the usual search fields are
filled in at different places.  Still the plans are the same but for the names of the search fields
(`Plan.ofSimple_conjunction`), and so are the replies to the two (`Engine.search_conjunction`).
-/

namespace OrderRetrieval

namespace AdvancedQuery

/-- The ranges of a query as filters. -/
def rangeFilters (q : AdvancedQuery) : List Condition :=
  (q.dateRange.map DateRange.condition).toList ++
    (q.numberRange.map NumberRange.condition).toList

/-- The simple query with the filters and the ranges of an advanced one. -/
def conjunction (q : AdvancedQuery) : SimpleQuery where
  text := q.text
  searchFields := q.fields.getD defaultSearchFields
  filters := q.filters ++ q.rangeFilters
  sort := q.sort
  paging := q.paging
  options := q.options
  facetFields := none

end AdvancedQuery

/-- The usual search fields can be named. -/
theorem Matcher.ofNames_getD (fields : Option (List String)) (c : Closeness) :
    ofNames (some (fields.getD defaultSearchFields)) c = ofNames fields c := by
  cases fields <;> rfl

namespace Plan

theorem fieldFaults_default : fieldFaults (defaultSearchFields.map .str) = [] := by
  decide

theorem fieldFaults_getD (fields : Option (List String)) :
    fieldFaults ((fields.getD defaultSearchFields).map .str) =
      fieldFaults ((fields.getD []).map .str) := by
  cases fields with
  | none => exact fieldFaults_default
  | some names => rfl

/-- Where all filters have to hold, it does not matter whether the ranges are among them. -/
theorem combine_ranges (tests ranges : List Test) :
    (if ranges.isEmpty then Predicate.combine .all (tests.map Test.holds)
      else Predicate.combine .all
        (Predicate.combine .all (tests.map Test.holds) :: ranges.map Test.holds)) =
      Predicate.combine .all ((tests ++ ranges).map Test.holds) := by
  cases ranges with
  | nil => rw [List.append_nil]; rfl
  | cons r ranges =>
    rw [List.map_append, Predicate.combine_all (_ ++ _), Predicate.all_append]
    simp only [Predicate.combine_all]
    rfl

/-- Searching in the usual fields because they are named, or because none is. -/
def withNames (p : Plan) : Plan :=
  { p with searchFields := some (p.searchFields.getD defaultSearchFields) }

/-- An advanced query all of whose filters have to hold is planned as the simple one that says the
same. -/
theorem ofSimple_conjunction (settings : Settings) {q : AdvancedQuery} (all : q.combinator = .all) :
    ofSimple settings q.conjunction =
      (ofAdvanced settings q).map fun (p, faults) => (p.withNames, faults) := by
  have ranges : rangeConditions q = q.rangeFilters := rfl
  unfold ofSimple ofAdvanced
  rw [all, ranges, AdvancedQuery.conjunction, Condition.compileEach_append]
  cases Condition.compileEach q.filters with
  | error e => rfl
  | ok first =>
    cases Condition.compileEach q.rangeFilters with
    | error e => rfl
    | ok second =>
      simp only [bind, Except.bind, Except.map, combine_ranges, withNames, fieldFaults_getD]
      simp [fieldFaults]

theorem found_withNames (p : Plan) (index : Index) : p.withNames.found index = p.found index := by
  have ranked : p.withNames.ranked index = p.ranked index := by
    unfold ranked withNames
    simp only [Matcher.ofNames_getD]
  unfold found
  rw [ranked]
  rfl

end Plan

/-! ## A narrow query -/

namespace Audit

/-- The orders of one customer that are paid, came in during one year and cost some amount. -/
def query : AdvancedQuery where
  text := some "ada"
  fields := none
  filters := [⟨"paymentStatus", "equals", .str "PAID", .all⟩]
  combinator := .all
  dateRange := some ⟨"createdAt", .ofUtc ⟨738886 * Calendar.day, by decide⟩,
    .ofUtc ⟨739251 * Calendar.day, by decide⟩⟩
  numberRange := some ⟨"totalAmount", 10, 100⟩
  sort := [.newestFirst]
  paging := .default
  options := .default

/-- An order of the customer. -/
def order (id : String) (payment : Option String) (created : Calendar.Moment) (amount : Float) :
    Document where
  id := id
  orderNumber := id
  customerName := "Ada"
  customerEmail := ""
  status := none
  paymentStatus := payment
  fulfillmentStatus := none
  totalAmount := amount
  createdAt := some (.ofUtc created)
  updatedAt := none
  shippingAddress := none
  billingAddress := none
  notes := ""
  searchableText := "ada"

/-- One order that meets all conditions, and for each condition one that fails just that. -/
def index : Index where
  documents := [order "paid" (some "PAID") ⟨738900 * Calendar.day, by decide⟩ 20,
    order "unpaid" none ⟨738900 * Calendar.day, by decide⟩ 20,
    order "old" (some "PAID") ⟨738000 * Calendar.day, by decide⟩ 20,
    order "dear" (some "PAID") ⟨738900 * Calendar.day, by decide⟩ 200]
  ids_nodup := by decide

/-- Which orders meet some conditions. -/
def found (cs : List Condition) : Except Failure (List String) :=
  (index.filtered cs).map (List.map Document.id)

end Audit

namespace Engine

theorem execute_withNames (settings : Settings) (e : Engine) (index : Index) (millis : Float)
    (p : Plan) :
    e.execute settings index millis p.withNames = e.execute settings index millis p := by
  unfold execute
  rw [p.found_withNames index]
  rfl

/-- **An advanced search in which all filters have to hold is a simple search** for the query that
has the ranges among its filters: the same result or failure, the same engine afterwards, and the
same is noted. -/
theorem search_conjunction (settings : Settings) (e : Engine) (index : Index) (millis : Float)
    (q : AdvancedQuery) (all : q.combinator = .all) :
    e.search settings index millis (.advanced q) =
      e.search settings index millis (.simple q.conjunction) := by
  have planned : Plan.ofQuery settings (.simple q.conjunction) =
      (Plan.ofQuery settings (.advanced q)).map fun (p, faults) => (p.withNames, faults) :=
    Plan.ofSimple_conjunction settings all
  unfold search
  rw [planned]
  cases Plan.ofQuery settings (.advanced q) with
  | error failure => rfl
  | ok planned => simp only [Except.map, execute_withNames]

/-- An advanced search with a filter and both ranges is a simple one with three filters, each of
which leaves out another order. -/
theorem search_audit :
    Audit.query.combinator = .all ∧
      Audit.query.conjunction.filters.map (fun c => Audit.found [c]) =
        [.ok ["paid", "old", "dear"], .ok ["paid", "unpaid", "dear"],
          .ok ["paid", "unpaid", "old"]] ∧
      Audit.found Audit.query.conjunction.filters = .ok ["paid"] ∧
      (start none).search .default Audit.index 0 (.advanced Audit.query) =
        (start none).search .default Audit.index 0 (.simple Audit.query.conjunction) :=
  ⟨rfl, rfl, rfl, search_conjunction .default (start none) Audit.index 0 Audit.query rfl⟩

end Engine

end OrderRetrieval

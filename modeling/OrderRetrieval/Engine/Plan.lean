import OrderRetrieval.Filter.Compile
import OrderRetrieval.Matching.Rank
import OrderRetrieval.Settings

/-!
# Plans

A query of either form is checked as a whole and becomes a plan, which says what to look for and
what to report.  The faults of a query are found in a fixed order: page, limit, threshold, search
fields, facet fields, filters, range of dates, range of amounts.
-/

namespace OrderRetrieval

/-- What to look for and what to report. -/
structure Plan where
  text : Option String
  searchFields : Option (List String)
  predicate : Predicate
  sort : List SortSpec
  paging : Paging
  closeness : Closeness
  highlight : Bool
  facetFields : Option (List String)

/-- When a word matches under the options of a query. -/
def Options.closeness (o : Options) : Closeness :=
  if o.fuzzy then .ofThreshold o.fuzzyThreshold else .contained

namespace Plan

/-- The faults in the page and the options of a query. -/
def boundFaults (settings : Settings) (p : Paging) (o : Options) : List QueryFault :=
  (if p.page < 1 then [.pageTooSmall p.page] else []) ++
    (if p.limit < 1 ∨ settings.maxPageSize.lt (.whole p.limit) then
      [.limitOutOfBounds p.limit settings.maxPageSize] else []) ++
    (if Double.le 0 o.fuzzyThreshold && Double.le o.fuzzyThreshold 1 then []
      else [.thresholdOutOfBounds o.fuzzyThreshold])

/-- The faults in some names of fields. -/
def fieldFaults (names : List Datum) : List QueryFault :=
  names.filterMap fun name => match Field.resolve name with
    | .ok _ => none
    | .error fault => some fault

/-- The conditions that the ranges of an advanced query stand for. -/
def rangeConditions (q : AdvancedQuery) : List Condition :=
  (q.dateRange.map fun r => Condition.between r.field (.time r.start) (.time r.finish)).toList ++
    (q.numberRange.map fun r =>
      Condition.between r.field (.float r.least) (.float r.greatest)).toList

/-- The plan for a simple query and the faults of the query. -/
def ofSimple (settings : Settings) (q : SimpleQuery) : Except Failure (Plan × List QueryFault) :=
  (Condition.compileEach q.filters).map fun (tests, faults) =>
    ({ text := q.text
       searchFields := some q.searchFields
       predicate := Predicate.combine .all (tests.map Test.holds)
       sort := q.sort
       paging := q.paging
       closeness := q.options.closeness
       highlight := q.options.highlight
       facetFields := q.facetFields },
      boundFaults settings q.paging q.options ++ fieldFaults (q.searchFields.map .str) ++
        fieldFaults ((q.facetFields.getD []).map .str) ++ faults)

/-- The plan for an advanced query and the faults of the query.  The ranges narrow the result
whatever way the filters are combined in. -/
def ofAdvanced (settings : Settings) (q : AdvancedQuery) :
    Except Failure (Plan × List QueryFault) := do
  let (tests, faults) ← Condition.compileEach q.filters
  let (ranges, rangeFaults) ← Condition.compileEach (rangeConditions q)
  let combined := Predicate.combine q.combinator (tests.map Test.holds)
  .ok ({ text := q.text
         searchFields := q.fields
         predicate :=
           if ranges.isEmpty then combined
           else Predicate.combine .all (combined :: ranges.map Test.holds)
         sort := q.sort
         paging := q.paging
         closeness := q.options.closeness
         highlight := q.options.highlight
         facetFields := none },
    boundFaults settings q.paging q.options ++ fieldFaults ((q.fields.getD []).map .str) ++
      faults ++ rangeFaults)

/-- The plan for a query and the faults of the query. -/
def ofQuery (settings : Settings) : Query → Except Failure (Plan × List QueryFault)
  | .simple q => ofSimple settings q
  | .advanced q => ofAdvanced settings q

end Plan

end OrderRetrieval

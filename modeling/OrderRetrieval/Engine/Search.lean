import OrderRetrieval.Engine.Plan
import OrderRetrieval.Facet.Aggregate
import OrderRetrieval.Facet.Count
import OrderRetrieval.Facet.Group
import OrderRetrieval.Matching.Highlight
import OrderRetrieval.Popularity.Suggestion
import OrderRetrieval.Reply
import OrderRetrieval.Sorting.Basic

/-!
# Searching

A search selects the documents that pass the filters, keeps those that match the text, sorts them
and reports one page together with facets and the range of dates over all of them.  A search with
text also makes suggestions and then counts the words of the text.
-/

namespace OrderRetrieval

/-- A document on a page of a result. -/
structure Hit where
  document : Document
  score : Nat
  highlights : List (String × String)

/-- The result of a search. -/
structure SearchResult where
  items : List Hit
  total : Nat
  paging : Paging
  totalPages : Nat
  millis : Float
  suggestions : List Suggestion
  facets : List (Field × Facet.Counts)
  dateRange : Option MomentRange

/-- What a search engine remembers: the terms of past queries, and how many searches took how long
together. -/
structure Engine where
  history : History
  queries : Nat
  totalMillis : Float

/-- Figures about past searches. -/
structure SearchStats where
  queries : Nat
  averageMillis : Float
  popular : List (String × Int)
  indexSize : Nat

/-- The documents that a plan finds, in the order of the result.  The notices of its sort keys come
once sorting begins. -/
structure Matches where
  result : Except Failure (List (Scored Nat))
  notices : List Notice

namespace Plan

/-- The documents that pass the predicate and match the text, best matches first. -/
def ranked (p : Plan) (index : Index) : Except Failure (List (Scored Nat)) := do
  let selected ← p.predicate.select index.documents
  let matcher ← (Matcher.ofNames p.searchFields p.closeness).mapError .ofFault
  let hits ← matcher.rank (queryWords? p.text) selected
  .ok (hits.map fun (d, n) => ⟨d, n⟩)

/-- The documents that a plan finds, in the order of the result. -/
def found (p : Plan) (index : Index) : Matches :=
  match p.ranked index with
  | .error e => ⟨.error e, []⟩
  | .ok items => ⟨Sorting.sort compare p.sort items, Sorting.notices p.sort⟩

/-- The number of items before the page. -/
def offset (p : Plan) : Int := (p.paging.page - 1) * p.paging.limit

/-- The items of the page. -/
def pageOf {α : Type} (p : Plan) (items : List α) : List α :=
  (items.drop p.offset.toNat).take p.paging.limit.toNat

/-- How many pages hold all items: the least number of pages that has room for them.  Pages so large
that the share of one which is filled lies nearer to zero than to any double count as none.

The whole number above the quotient as a double is the same: up to 2^53 items, which no list
exceeds, a quotient that is not whole lies further from the whole number below it than rounding
reaches. -/
def pageCount (p : Plan) (total : Nat) : Nat :=
  let limit := p.paging.limit.toNat
  if total * Number.twoTo 1075 ≤ limit then 0 else (total + limit - 1) / limit

/-- The hit for an item of the page. -/
def hit (p : Plan) (item : Scored Nat) : Hit :=
  ⟨item.document, item.score,
    if p.highlight then item.document.highlights (queryWords? p.text) else []⟩

/-- Whether the text holds anything but blanks. -/
def hasText (p : Plan) : Bool :=
  (p.text.map fun s => !(Text.trim Text.isBlank s.toList).isEmpty).getD false

/-- The fields that are counted. -/
def facetNames (settings : Settings) (p : Plan) : Except Failure (List Datum) :=
  match p.facetFields with
  | none | some [] => settings.facetFields.parts
  | some names => .ok (names.map .str)

/-- What is counted over all documents found: facets and the range of dates. -/
def overview (names : List Datum) (ds : List Document) :
    Except Failure (List (Field × Facet.Counts) × Option MomentRange) := do
  let fields ← Facet.resolve names
  let facets ← Facet.ofFields fields ds
  let range ← dateRange ds
  .ok (facets, range)

end Plan

namespace Engine

/-- Nothing searched yet. -/
def start (shared : Option SharedStore) : Engine := ⟨.start shared, 0, 0⟩

/-- Count a search that took the given time. -/
def count (e : Engine) (millis : Float) : Engine :=
  { e with queries := e.queries + 1, totalMillis := e.totalMillis + millis }

/-- Suggest completions for the text of a plan, then count its words. -/
def consult (settings : Settings) (e : Engine) (index : Index) (p : Plan) :
    Reply Engine (List Suggestion) :=
  if p.hasText then
    let (suggestions, reading) :=
      Suggestion.forPartial settings index e.history p.text settings.searchSuggestions
    let completed : Reply Engine (List Suggestion) := ⟨suggestions, e, reading⟩
    completed.bind fun suggestions e =>
      ((e.history.record settings p.text).map fun _ => suggestions).lift fun history =>
        { e with history }
  else .answer e []

/-- Carry out a plan; the search takes the given time.  Filtering, sorting and counting write the
parts of addresses out, so it is taken that these can be written (`Datum.isWritable`) and are not
nested deeper than the stack allows. -/
def execute (settings : Settings) (e : Engine) (index : Index) (millis : Float) (p : Plan) :
    Reply Engine SearchResult :=
  let found := p.found index
  match (do .ok (← found.result, ← p.facetNames settings)) with
  | .error failure => ⟨.error failure, e, found.notices⟩
  | .ok (items, names) =>
    let consulted := (e.consult settings index p).noting found.notices
    consulted.bind fun suggestions e =>
      let result := (Plan.overview names (items.map Scored.document)).map fun (facets, dateRange) =>
        { items := (p.pageOf items).map p.hit
          total := items.length
          paging := p.paging
          totalPages := p.pageCount items.length
          millis
          suggestions
          facets
          dateRange }
      ⟨result, e.count millis, []⟩

/-- Search the index; the search takes the given time.  A query with faults is refused before any
document is looked at. -/
def search (settings : Settings) (e : Engine) (index : Index) (millis : Float) (q : Query) :
    Reply Engine SearchResult :=
  match Plan.ofQuery settings q with
  | .error failure => .refusal e failure
  | .ok (plan, faults) =>
    match Rejection.ofFaults? faults with
    | some r => ⟨.error (.rejected r), e, [.queryRejected r.faults.length]⟩
    | none => e.execute settings index millis plan

/-- The wording of every fault of a query. -/
def validate (settings : Settings) (q : Query) : Except Failure (List String) × List Notice :=
  match Plan.ofQuery settings q with
  | .error failure => (.error failure, [])
  | .ok (_, faults) => (.ok (faults.map QueryFault.message), Sorting.notices q.sort)

/-- Figures about past searches, with the most popular terms. -/
def stats (e : Engine) (index : Index) (terms : Quantity) :
    Except Failure SearchStats × List Notice :=
  let (popular, notices) := e.history.popular (some terms)
  (popular.map fun popular =>
    { queries := e.queries
      averageMillis := if e.queries = 0 then 0 else e.totalMillis / Float.ofNat e.queries
      popular
      indexSize := index.size },
    notices)

end Engine

namespace Index

/-- The documents that satisfy every condition. -/
def filtered (index : Index) (filters : List Condition) : Except Failure (List Document) := do
  let predicate ← Condition.compileAll filters
  predicate.select index.documents

/-- The facets of some fields over the documents that satisfy every condition; the usual ones if no
field is named. -/
def facets (settings : Settings) (index : Index) (names : Datum) (filters : List Condition) :
    Except Failure (List (Field × Facet.Counts)) := do
  let names ← (names.orElse settings.facetFields).parts
  refuse (Plan.fieldFaults names)
  let selected ← index.filtered filters
  let fields ← Facet.resolve names
  Facet.ofFields fields selected

/-- The totals over the documents that satisfy every condition. -/
def totals (index : Index) (filters : List Condition) : Except Failure Aggregate := do
  aggregate (← index.filtered filters)

/-- The documents that satisfy every condition, grouped by a field. -/
def groups (index : Index) (field : Datum) (filters : List Condition) :
    Except Failure (List Bucket) := do
  groupBy field (← index.filtered filters)

end Index

/-- The operators that a named field supports. -/
def supportedOperators (field : Datum) : Except QueryFault (List Operator) :=
  (Field.resolve field).map fun f => f.kind.operators

end OrderRetrieval

import OrderRetrieval.Checked
import OrderRetrieval.Query.Operator

/-!
# Queries

A simple query has text, filters that all have to hold, sort keys and a page; an advanced query
says in addition how its filters are combined and may narrow the result by a range of dates and a
range of amounts.  Names of fields and operators are kept as given, so that unknown ones are
reported together with everything else that is wrong with a query.
-/

namespace OrderRetrieval

open Calendar (Timestamp)
open Checked

/-- A filter condition. -/
structure Condition where
  field : String
  operator : String
  value : Datum
  combinator : Combinator

/-- A sort key. -/
structure SortSpec where
  field : String
  direction : Direction
deriving DecidableEq, Repr

/-- What a query says about the fuzziness and the form of its result. -/
structure Options where
  fuzzy : Bool
  fuzzyThreshold : Float
  highlight : Bool
  includeTotal : Bool

/-- A page of a result. -/
structure Paging where
  page : Int
  limit : Int
deriving DecidableEq, Repr

/-- A simple query. -/
structure SimpleQuery where
  text : Option String
  searchFields : List String
  filters : List Condition
  sort : List SortSpec
  paging : Paging
  options : Options
  facetFields : Option (List String)

/-- A range of dates, both ends included. -/
structure DateRange where
  field : String
  start : Timestamp
  finish : Timestamp

/-- A range of numbers, both ends included. -/
structure NumberRange where
  field : String
  least : Float
  greatest : Float

/-- An advanced query. -/
structure AdvancedQuery where
  text : Option String
  fields : Option (List String)
  filters : List Condition
  combinator : Combinator
  dateRange : Option DateRange
  numberRange : Option NumberRange
  sort : List SortSpec
  paging : Paging
  options : Options

/-- A query of either form. -/
inductive Query where
  | simple (q : SimpleQuery)
  | advanced (q : AdvancedQuery)

namespace Query

/-- The sort keys of a query. -/
def sort : Query → List SortSpec
  | simple q => q.sort
  | advanced q => q.sort

end Query

/-- The fields in which a query searches unless it names some. -/
def defaultSearchFields : List String := ["orderNumber", "customerName", "customerEmail", "notes"]

/-- The items of a page unless a query says otherwise. -/
def defaultPageSize : Int := 20

/-- The similarity that fuzzy matching asks for unless a query says otherwise. -/
def defaultThreshold : Float := 0.7

namespace Condition

/-- Read a condition from the fields of an object. -/
def read (fields : List (String × Datum)) : Checked Condition :=
  first Condition.mk (required fields "field" string)
    |>.and (required fields "operator" string)
    |>.and (orDefault fields "value" anything .null)
    |>.and (orDefault fields "logical_operator" (choice Combinator.ofName?) .all)

end Condition

namespace SortSpec

/-- Read a sort key from the fields of an object. -/
def read (fields : List (String × Datum)) : Checked SortSpec :=
  first SortSpec.mk (required fields "field" string)
    |>.and (orDefault fields "direction" (choice Direction.ofName?) .descending)

/-- Newest orders first. -/
def newestFirst : SortSpec := ⟨Field.createdAt.name, .descending⟩

end SortSpec

namespace Options

/-- Exact matching, without highlighting. -/
def default : Options := ⟨false, defaultThreshold, false, true⟩

/-- Read options from the fields of an object. -/
def read (fields : List (String × Datum)) : Checked Options :=
  first Options.mk (orDefault fields "fuzzy" truth default.fuzzy)
    |>.and (orDefault fields "fuzzy_threshold" double default.fuzzyThreshold)
    |>.and (orDefault fields "highlight" truth default.highlight)
    |>.and (orDefault fields "include_total" truth default.includeTotal)

end Options

namespace Paging

/-- The first page. -/
def default : Paging := ⟨1, defaultPageSize⟩

/-- Read a page from the fields of an object. -/
def read (fields : List (String × Datum)) : Checked Paging :=
  first Paging.mk (orDefault fields "page" whole default.page)
    |>.and (orDefault fields "limit" whole default.limit)

end Paging

namespace SimpleQuery

/-- Read a simple query from the fields of an object. -/
def read (fields : List (String × Datum)) : Checked SimpleQuery :=
  first SimpleQuery.mk (orDefault fields "text" (nullable string) none)
    |>.and (orDefault fields "search_fields" (list string) defaultSearchFields)
    |>.and (orDefault fields "filters" (list (record Condition.read)) [])
    |>.and (orDefault fields "sort" (list (record SortSpec.read)) [])
    |>.and (Paging.read fields)
    |>.and (Options.read fields)
    |>.and (orDefault fields "facet_fields" (nullable (list string)) none)

end SimpleQuery

namespace DateRange

/-- Read a range of dates from the fields of an object. -/
def read (fields : List (String × Datum)) : Checked DateRange :=
  first DateRange.mk (orDefault fields "field" string Field.createdAt.name)
    |>.and (required fields "start" timestamp)
    |>.and (required fields "end" timestamp)

end DateRange

namespace NumberRange

/-- Read a range of numbers from the fields of an object. -/
def read (fields : List (String × Datum)) : Checked NumberRange :=
  first NumberRange.mk (orDefault fields "field" string Field.totalAmount.name)
    |>.and (required fields "min" double)
    |>.and (required fields "max" double)

end NumberRange

namespace AdvancedQuery

/-- Read an advanced query from the fields of an object. -/
def read (fields : List (String × Datum)) : Checked AdvancedQuery :=
  first AdvancedQuery.mk (orDefault fields "text" (nullable string) none)
    |>.and (orDefault fields "fields" (nullable (list string)) none)
    |>.and (orDefault fields "filters" (list (record Condition.read)) [])
    |>.and (orDefault fields "logical_operator" (choice Combinator.ofName?) .all)
    |>.and (orDefault fields "date_range" (nullable (record DateRange.read)) none)
    |>.and (orDefault fields "numeric_range" (nullable (record NumberRange.read)) none)
    |>.and (orDefault fields "sort" (list (record SortSpec.read)) [])
    |>.and (orDefault fields "pagination" (record Paging.read) .default)
    |>.and (orDefault fields "options" (record Options.read) .default)

end AdvancedQuery

end OrderRetrieval

import OrderRetrieval.Coercion
import OrderRetrieval.Query.Basic

/-!
# Settings

What the operator of the service may set: limits of queries and suggestions, the intervals of the
periodic indexing jobs and their timeout, in seconds, and the thresholds of the health report.
Lists of fields, intervals and the timeout are kept as they were set; a null timeout sets no limit.
-/

namespace OrderRetrieval

/-- The settings of a service. -/
structure Settings where
  maxPageSize : Quantity
  searchFields : Datum
  facetFields : Datum
  suggestionMinLength : Quantity
  searchSuggestions : Quantity
  minTermLength : Quantity
  historySize : Quantity
  incrementalInterval : Datum
  fullInterval : Datum
  optimizeInterval : Datum
  jobTimeout : Datum
  staleAfter : Quantity
  maxErrorRate : Quantity
  slowIndexMillis : Quantity

namespace Settings

/-- The settings of a service that nobody has changed. -/
def default : Settings where
  maxPageSize := .whole 100
  searchFields := .arr (defaultSearchFields.map .str)
  facetFields := .arr [.str "status", .str "paymentStatus", .str "fulfillmentStatus"]
  suggestionMinLength := .whole 2
  searchSuggestions := .whole 5
  minTermLength := .whole 3
  historySize := .whole 1000
  incrementalInterval := .int 300
  fullInterval := .int 3600
  optimizeInterval := .int 86400
  jobTimeout := .int 600
  staleAfter := .whole 3600
  maxErrorRate := .double 0.1
  slowIndexMillis := .double 1000

/-- The interval of the job of that name; unknown jobs have that of the full job. -/
def interval (s : Settings) (job : String) : Datum :=
  if job = "incremental" then s.incrementalInterval
  else if job = "optimize" then s.optimizeInterval
  else s.fullInterval

/-- How many suggestions are made unless a request says otherwise. -/
def suggestionLimit : Quantity := .whole 10

/-- How many popular terms are reported unless a request says otherwise. -/
def reportedTerms : Quantity := .whole 10

/-- Whether the timeout leaves a job no time at all. -/
def leavesNoTime (s : Settings) : Except Failure Bool :=
  match s.jobTimeout with
  | .null => .ok false
  | x => match x.quantity? with
    | none => .error (.unordered "<=" x.kindWord "int")
    | some q =>
      if q.le (.whole 0) then .ok true
      else match q with
        | .whole n => if (Double.ofInt? n).isNone then .error .numberTooLarge else .ok false
        | .double _ => .ok false

end Settings

end OrderRetrieval

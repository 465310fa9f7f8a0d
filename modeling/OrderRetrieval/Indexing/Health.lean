import OrderRetrieval.Indexing.Basic

/-!
# Health of the index

The health report tells what is wrong with the index and what to do about it.  One or two issues
degrade it, three make it unhealthy.  The progress report compares the index with the source, and
the figures about indexing are reported with the size that the index has at the moment.
-/

namespace OrderRetrieval

open Calendar (Timestamp)

/-- The verdict of a health report. -/
inductive HealthStatus where
  | healthy
  | degraded
  | unhealthy
deriving DecidableEq, Repr

/-- The name of a verdict. -/
def HealthStatus.name : HealthStatus → String
  | healthy => "healthy"
  | degraded => "degraded"
  | unhealthy => "unhealthy"

/-- The verdict on a number of issues. -/
def HealthStatus.ofIssues : Nat → HealthStatus
  | 0 => healthy
  | 1 | 2 => degraded
  | _ => unhealthy

/-- Something wrong with the index. -/
inductive HealthIssue where
  | empty
  | stale
  | errorRate (rate : Float)
  | slow (averageMillis : Float)

namespace HealthIssue

/-- The wording of an issue. -/
def text : HealthIssue → String
  | empty => "Search index is empty"
  | stale => "Search index has not been updated in the last hour"
  | errorRate rate => "High indexing error rate: " ++ Number.fixed 1 (rate * 100) ++ "%"
  | slow averageMillis => "Slow average index time: " ++ Number.fixed 0 averageMillis ++ "ms"

/-- What to do about an issue. -/
def recommendation : HealthIssue → String
  | empty => "Run a full reindex to populate the search index"
  | stale => "Check that the indexing scheduler is running"
  | errorRate _ => "Review indexing error logs for orders that fail to map"
  | slow _ => "Investigate source repository latency and batch sizes"

end HealthIssue

/-- Whether too much time has passed since the last update, if there was one. -/
def isStale (settings : Settings) (lastUpdate : Option Timestamp) (now : Timestamp) :
    Except Failure Bool :=
  match lastUpdate with
  | none => .ok true
  | some last => (now.since last).map fun micros =>
    settings.staleAfter.lt (.double (Calendar.inSeconds micros))

/-- What is wrong with the index at some moment. -/
def Indexer.issues (settings : Settings) (x : Indexer) (now : Timestamp) :
    Except Failure (List HealthIssue) := do
  let stale ← isStale settings x.stats.lastUpdate now
  let rate := Float.ofNat x.stats.errors / Float.ofNat (max x.stats.indexed 1)
  .ok ((if x.index.size = 0 then [.empty] else []) ++
    (if stale then [.stale] else []) ++
    (if settings.maxErrorRate.lt (.double rate) then [.errorRate rate] else []) ++
    (if settings.slowIndexMillis.lt (.double x.stats.averageMillis) then
      [.slow x.stats.averageMillis] else []))

/-- Figures about the index and about what has been indexed. -/
structure IndexReport where
  documents : Nat
  indexed : Nat
  errors : Nat
  lastUpdate : Option Timestamp
  averageMillis : Float

/-- Figures about the index at the moment. -/
def Indexer.report (x : Indexer) : IndexReport where
  documents := x.index.size
  indexed := x.stats.indexed
  errors := x.stats.errors
  lastUpdate := x.stats.lastUpdate
  averageMillis := x.stats.averageMillis

/-- How much of the source is indexed. -/
structure Progress where
  orders : Nat
  indexed : Nat
  percent : Float
  remainingMillis : Float

/-- Compare the index with the number of orders in the source. -/
def Indexer.progress (x : Indexer) (orders : Nat) : Progress :=
  let indexed := x.index.size
  let percent : Float :=
    if orders = 0 then 100 else Float.ofNat indexed / Float.ofNat orders * 100
  { orders
    indexed
    percent := if Double.lt 100 percent then 100 else percent
    remainingMillis := Float.ofNat (orders - indexed) * x.stats.averageMillis }

end OrderRetrieval

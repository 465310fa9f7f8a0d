import OrderRetrieval.Calendar.Duration
import OrderRetrieval.Order.Batch
import OrderRetrieval.Order.Source
import OrderRetrieval.Reply
import OrderRetrieval.Settings

/-!
# Keeping the index up to date

The index is written by tasks.  Each first fetches orders from the source, as of some moment, and
later applies what it fetched to the index; between the two other tasks may do the same, and the
source may change.  An incremental task fetches what changed since the last one that succeeded
began.  Times are kept as the clock of the service shows them.
-/

namespace OrderRetrieval

open Calendar (Timestamp)

/-- The jobs that run periodically. -/
inductive Job where
  | incremental
  | full
  | optimize
deriving DecidableEq, Repr

namespace Job

/-- Every job. -/
def all : List Job := [incremental, full, optimize]

/-- The name of a job. -/
def name : Job → String
  | incremental => "incremental"
  | full => "full"
  | optimize => "optimize"

/-- The job of that name. -/
def ofName? (s : String) : Option Job := all.find? fun j => j.name == s

@[simp] theorem ofName?_name (j : Job) : ofName? j.name = some j := by cases j <;> decide

end Job

/-- Everything that writes the index: the periodic jobs, a rebuild from nothing, and the update of
a single order. -/
inductive Task where
  | job (j : Job)
  | rebuild
  | one (id : Datum)

/-- The name under which a task fails. -/
def Task.name : Task → String
  | job j => j.name
  | rebuild => "force_reindex"
  | one _ => "reindex_one"

/-- What is counted about indexing. -/
structure IndexStats where
  indexed : Nat
  errors : Nat
  lastUpdate : Option Timestamp
  totalMillis : Float
  averageMillis : Float

namespace IndexStats

/-- Nothing counted yet. -/
def zero : IndexStats := ⟨0, 0, none, 0, 0⟩

/-- Count a batch that was applied at some moment.  The average changes only once something has been
indexed. -/
def record (s : IndexStats) (r : BatchResult) (now : Timestamp) : IndexStats :=
  let indexed := s.indexed + r.indexed
  let totalMillis := s.totalMillis + r.millis
  { indexed
    errors := s.errors + r.failed
    lastUpdate := some now
    totalMillis
    averageMillis :=
      if indexed = 0 then s.averageMillis else totalMillis / Float.ofNat indexed }

end IndexStats

/-- When the last successful run of each job began; a run of the optimize job counts from its
end. -/
structure Marks where
  incremental : Option Timestamp
  full : Option Timestamp
  optimize : Option Timestamp
deriving DecidableEq

/-- No run yet. -/
def Marks.none : Marks := ⟨.none, .none, .none⟩

/-- The index with the bookkeeping of the tasks that write it. -/
structure Indexer where
  index : Index
  stats : IndexStats
  marks : Marks
  /-- Whether the periodic jobs have been started. -/
  running : Bool

/-- What a task has fetched, and the moment at which it began. -/
structure Fetched where
  task : Task
  started : Timestamp
  orders : List Order

namespace Indexer

/-- Nothing indexed yet. -/
def start : Indexer := ⟨.empty, .zero, .none, false⟩

/-- The start of the window that the next incremental task fetches: when the last one began that
succeeded, or else one interval ago. -/
def window (settings : Settings) (x : Indexer) (now : Timestamp) :
    Except Failure Timestamp := do
  let span ← settings.incrementalInterval.toSpan
  match now.shift? (-span) with
  | none => .error .dateOutOfRange
  | some before => .ok (x.marks.incremental.getD before)

/-- What a task does before it fetches: a rebuild begins the counts anew. -/
def prepare (x : Indexer) : Task → Indexer
  | .rebuild => { x with stats := .zero }
  | _ => x

/-- Ask the source for the orders that a task needs. -/
def ask (settings : Settings) (x : Indexer) (now : Timestamp) (source : OrderSource) :
    Task → Except Failure (Except Failure (List Order) × OrderSource)
  | .job .incremental => (x.window settings now).map fun since => source.fetchChangedSince since
  | .job .full | .job .optimize | .rebuild => .ok (source.fetchAll, source)
  | .one id => .ok ((source.fetchOne id).map Option.toList, source)

/-- Fetch what a task needs.  A source that cannot be reached fails the task under its name. -/
def fetch (settings : Settings) (x : Indexer) (now : Timestamp) (source : OrderSource)
    (task : Task) : Except Failure Fetched × OrderSource :=
  match x.ask settings now source task with
  | .error e => (.error e, source)
  | .ok (.error e, source) => (.error (.jobFailed task.name e.message), source)
  | .ok (.ok orders, source) => (.ok ⟨task, now, orders⟩, source)

/-- Index a batch of orders and count it. -/
def applyBatch (x : Indexer) (now : Timestamp) (millis : Float) (orders : List Order) :
    Reply Indexer BatchResult :=
  let (index, result) := Order.indexAll x.index millis orders
  ⟨.ok result, { x with index, stats := x.stats.record result now }, result.notices⟩

/-- Put the documents of a batch of orders in the place of all others and count the batch.  If one
of the documents cannot be stored, the whole rebuild fails and nothing is counted. -/
def applyRebuild (x : Indexer) (started now : Timestamp) (millis : Float) (orders : List Order) :
    Reply Indexer BatchResult :=
  let (documents, result) := Order.mapAll millis orders
  match Index.snapshot documents with
  | .error e => ⟨.error e, x, result.notices⟩
  | .ok index =>
    ⟨.ok result,
      { x with
        index
        stats := x.stats.record result now
        marks := { x.marks with full := some started, incremental := some started } },
      result.notices⟩

/-- Take out every document whose id is not that of some order. -/
def applyOptimize (x : Indexer) (now : Timestamp) (orders : List Order) :
    Reply Indexer BatchResult :=
  match orders.mapM Order.sourceId with
  | .error e => .refusal x e
  | .ok ids =>
    let (index, removed) := x.index.sweep ids
    ⟨.ok { BatchResult.start 0 with total := removed },
      { x with index := index.compact, marks := { x.marks with optimize := some now } }, []⟩

/-- Apply what a task has fetched; the batch takes the given time. -/
def apply (x : Indexer) (now : Timestamp) (millis : Float) (f : Fetched) :
    Reply Indexer BatchResult :=
  match f.task with
  | .job .incremental =>
    (x.applyBatch now millis f.orders).lift fun x =>
      { x with marks := { x.marks with incremental := some f.started } }
  | .job .full =>
    (x.applyBatch now millis f.orders).lift fun x =>
      { x with marks := { x.marks with full := some f.started } }
  | .job .optimize => x.applyOptimize now f.orders
  | .rebuild => x.applyRebuild f.started now millis f.orders
  | .one id =>
    match f.orders with
    | [] => ⟨.ok (.start 0), x, [.orderMissing id.text]⟩
    | orders => x.applyBatch now millis orders

/-- Take one document out of the index. -/
def removeOne (x : Indexer) (id : Datum) : Bool × Indexer :=
  (x.index.contains id.text, { x with index := x.index.delete id.text })

end Indexer

end OrderRetrieval

import OrderRetrieval.Engine.Search
import OrderRetrieval.Indexing.Health

/-!
# The service

The service joins the index, the search engine and the tasks that keep the index up to date with a
source of orders, a clock and a stopwatch.  Each operation gives a reply and the service after it.
-/

namespace OrderRetrieval

open Calendar (Timestamp)

/-- A service at some moment. -/
structure Service where
  settings : Settings
  indexer : Indexer
  engine : Engine
  source : OrderSource
  now : Timestamp
  /-- The seconds that a search or a batch of orders takes. -/
  stopwatch : Float

namespace Service

/-- A service that has just been set up. -/
def start (settings : Settings) (source : OrderSource) (shared : Option SharedStore)
    (now : Timestamp) : Service :=
  ⟨settings, .start, .start shared, source, now, 0⟩

/-- What is noted when a service is set up with or without a shared store. -/
def startNotices (shared : Option SharedStore) : List Notice :=
  if shared.isNone then [.sharingDisabled] else []

/-- The index that searches see. -/
def index (s : Service) : Index := s.indexer.index

/-- The milliseconds that a search or a batch of orders takes. -/
def millis (s : Service) : Float := s.stopwatch * 1000

/-- Put other documents in the place of those of the index. -/
def withIndex (s : Service) (index : Index) : Service :=
  { s with indexer := { s.indexer with index } }

/-- Let time pass. -/
def advance (s : Service) (micros : Int) : Except Failure Service :=
  match s.now.shift? micros with
  | some now => .ok { s with now }
  | none => .error .dateOutOfRange

/-! ### Queries -/

/-- Search the index. -/
def search (s : Service) (q : Query) : Reply Service SearchResult :=
  (s.engine.search s.settings s.index s.millis q).lift fun engine => { s with engine }

/-- The wording of every fault of a query. -/
def validate (s : Service) (q : Query) : Reply Service (List String) :=
  let (result, notices) := Engine.validate s.settings q
  ⟨result, s, notices⟩

/-- Completions of a query in the making. -/
def suggest (s : Service) (text : Option String) (limit : Quantity) :
    Reply Service (List Suggestion) :=
  let (suggestions, notices) :=
    Suggestion.forPartial s.settings s.index s.engine.history text limit
  ⟨suggestions, s, notices⟩

/-- Figures about past searches. -/
def searchStats (s : Service) (terms : Quantity) : Reply Service SearchStats :=
  let (stats, notices) := s.engine.stats s.index terms
  ⟨stats, s, notices⟩

/-! ### Indexing -/

/-- Run a task from its fetch to its end.  It has no time at all if the timeout leaves it none. -/
def run (s : Service) (task : Task) : Reply Service BatchResult :=
  let prepared := s.indexer.prepare task
  let (fetched, source) := prepared.fetch s.settings s.now s.source task
  match fetched with
  | .error e => ⟨.error e, { s with indexer := prepared, source }, []⟩
  | .ok fetched =>
    (prepared.apply s.now s.millis fetched).lift fun indexer => { s with indexer, source }

/-- Run a task within the timeout, which may leave it no time at all. -/
def runInTime (s : Service) (task : Task) : Reply Service BatchResult :=
  match s.settings.leavesNoTime with
  | .error e => .refusal s e
  | .ok true => .refusal s (.jobFailed task.name
      ("timed out after " ++ s.settings.jobTimeout.text ++ "s"))
  | .ok false => s.run task

/-- Run the job of that name. -/
def runJob (s : Service) (name : String) : Reply Service BatchResult :=
  match Job.ofName? name with
  | none => .refusal s (.unknownJob name)
  | some job => s.runInTime (.job job)

/-- Ask for a job that is running already: wait for its end and run it again, or skip it. -/
def runBusyJob (s : Service) (name : String) : Reply Service (Option BatchResult) :=
  match Job.ofName? name with
  | none => .refusal s (.unknownJob name)
  | some job => ⟨.ok none, s, [.jobStillRunning job.name]⟩

/-- The failure with which a job ends before it has to wait for anything: the timeout is no number
of seconds, or there is none and the window of the job is not in the calendar. -/
def immediateFailure? (s : Service) (job : Job) : Option Failure :=
  match s.settings.leavesNoTime, s.indexer.window s.settings s.now with
  | .error e, _ => some e
  | .ok _, .error e => if s.settings.jobTimeout.isNull && job == .incremental then some e else none
  | .ok _, .ok _ => none

/-- Several requests for one job at the same moment, each saying whether it would wait.  The first
runs at once; of the others, those that do not wait are skipped at once and those that do run one
after the other once the first has ended.  A job that fails before it has to wait is never found
running, so every request fails. -/
def runTogether (s : Service) (name : String) (waits : List Bool) :
    List (Except Failure (Option BatchResult)) × Service × List Notice :=
  match (Job.ofName? name).bind s.immediateFailure?, waits with
  | _, [] => ([], s, [])
  | some e, _ => (waits.map fun _ => .error e, s, [])
  | none, _ :: others =>
    let skipped := (others.filter (!·)).flatMap fun _ => (s.runBusyJob name).notices
    let first := s.runJob name
    let (results, s, notices) := queue name first.state others
    (first.result.map some :: results, s, skipped ++ first.notices ++ notices)
where
  /-- The requests after the first, in order. -/
  queue (name : String) (s : Service) :
      List Bool → List (Except Failure (Option BatchResult)) × Service × List Notice
    | [] => ([], s, [])
    | false :: rest =>
      let (results, after, notices) := queue name s rest
      ((s.runBusyJob name).result :: results, after, notices)
    | true :: rest =>
      let reply := s.runJob name
      let (results, after, notices) := queue name reply.state rest
      (reply.result.map some :: results, after, reply.notices ++ notices)

/-- One scheduled run of a job.  A failure is noted and the next run will try again. -/
def tick (s : Service) (name : String) : Option BatchResult × Service × List Notice :=
  let reply := s.runJob name
  match reply.result with
  | .ok result => (some result, reply.state, reply.notices)
  | .error e =>
    let notice := match e with
      | .jobFailed .. => Notice.scheduledJobFailed e.message
      | _ => Notice.scheduledJobBroke name e.message
    (none, reply.state, reply.notices ++ [notice])

/-- Let an interval pass that is given as a number of seconds. -/
def wait (s : Service) (seconds : Datum) : Except Failure Service := do
  let span ← seconds.toSpan
  s.advance span

/-- So many scheduled runs of a job, each after one interval. -/
def periodic (s : Service) (name : String) : Nat → Reply Service Unit
  | 0 => .answer s ()
  | n + 1 =>
    match s.wait (s.settings.interval name) with
    | .error e => .refusal s e
    | .ok s =>
      let (_, s, notices) := s.tick name
      (s.periodic name n).noting notices

/-- Start the periodic jobs, unless they have been started before. -/
def startJobs (s : Service) : Service × List Notice :=
  if s.indexer.running then (s, [.alreadyStarted])
  else ({ s with indexer := { s.indexer with running := true } }, [])

/-- Stop the periodic jobs. -/
def stopJobs (s : Service) : Service :=
  { s with indexer := { s.indexer with running := false } }

/-- Rebuild the index from the source, within the timeout. -/
def forceReindex (s : Service) : Reply Service BatchResult := s.runInTime .rebuild

/-- Update every order, within the timeout. -/
def reindexAll (s : Service) : Reply Service BatchResult := s.runInTime (.job .full)

/-- Update one order; whether it is indexed now. -/
def reindexOne (s : Service) (id : Datum) : Reply Service Bool :=
  (s.run (.one id)).map fun r => r.indexed == 1

/-- Take one document out of the index; whether it was there. -/
def removeOne (s : Service) (id : Datum) : Bool × Service :=
  let (removed, indexer) := s.indexer.removeOne id
  (removed, { s with indexer })

/-- Build the index and then start the periodic jobs if so asked; whether they are running. -/
def startup (s : Service) (schedule : Bool) : Reply Service Bool :=
  s.forceReindex.bind fun _ s =>
    let (s, notices) := if schedule then s.startJobs else (s, [])
    ⟨.ok s.indexer.running, s, notices⟩

/-- Stop the periodic jobs and trim the history of terms. -/
def shutdown (s : Service) : Reply Service Unit :=
  let s := s.stopJobs
  (s.engine.history.trim s.settings).lift fun history =>
    { s with engine := { s.engine with history } }

/-- Figures about the index and about what has been indexed. -/
def stats (s : Service) : IndexReport := s.indexer.report

/-- Compare the index with the source. -/
def progress (s : Service) : Except Failure Progress :=
  match s.source.count with
  | .ok n => .ok (s.indexer.progress n)
  | .error e => .error (.jobFailed "progress" e.message)

/-- What is wrong with the index at some moment. -/
def health (s : Service) (now : Timestamp) : Except Failure (List HealthIssue) :=
  s.indexer.issues s.settings now

end Service

end OrderRetrieval

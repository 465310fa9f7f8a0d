import Mathlib.Algebra.GroupWithZero.Nat
import OrderRetrieval.Proofs.Service.Turns

/-!
# The books of the service

The service counts the orders that it has indexed or rejected.  After every course of calls the
counts are the sums over the batches that were applied since the last rebuild began
(`Service.books_of_course`).  A task that cannot fetch leaves everything as it was
(`Service.run_of_unavailable`), but a rebuild begins the counts anew before it fetches, and so does
one that fails (`Service.forceReindex_of_unavailable`).
-/

namespace OrderRetrieval

open Calendar (Timestamp)

/-! ## Accounts -/

/-- Whether what is counted about indexing is what some batches add up to. -/
structure IndexStats.Counts (x : IndexStats) (batches : List BatchResult) : Prop where
  indexed : x.indexed = (batches.map BatchResult.indexed).sum
  errors : x.errors = (batches.map BatchResult.failed).sum

namespace IndexStats

theorem counts_zero : zero.Counts [] := ⟨rfl, rfl⟩

/-- Recording a batch adds it to the account. -/
theorem Counts.record {x : IndexStats} {batches : List BatchResult} (h : x.Counts batches)
    (r : BatchResult) (now : Timestamp) : (x.record r now).Counts (batches ++ [r]) where
  indexed := by simp [IndexStats.record, h.indexed]
  errors := by simp [IndexStats.record, h.errors]

end IndexStats

/-- How the batch goes that a task applies if it has fetched some orders.  There is none if the task
just takes out documents, has not found its order or cannot make a snapshot of the orders. -/
def Task.results (millis : Float) : Task → List Order → List BatchResult
  | job .optimize, _ | one _, [] => []
  | rebuild, orders =>
    if (Order.documents Order.toDocument orders).all Document.isWritable then
      [Order.outcome Order.toDocument millis orders]
    else []
  | _, orders => [Order.outcome Order.toEntry millis orders]

namespace Indexer

variable {x : Indexer} {now : Timestamp} {millis : Float} {f : Fetched}

/-- Rebuilding the index adds its batch to the account if it does not fail. -/
theorem counts_applyRebuild {batches : List BatchResult} (h : x.stats.Counts batches)
    (started : Timestamp) (orders : List Order) :
    (x.applyRebuild started now millis orders).state.stats.Counts
      (batches ++ Task.rebuild.results millis orders) := by
  unfold applyRebuild
  simp only [Order.mapAll_fst, Order.mapAll_snd, Index.snapshot_eq, Task.results]
  cases (Order.documents Order.toDocument orders).all Document.isWritable with
  | true => exact h.record _ now
  | false => simpa using h

/-- Applying what was fetched adds the batch that it makes to the account. -/
theorem counts_apply {batches : List BatchResult} (h : x.stats.Counts batches) :
    (x.apply now millis f).state.stats.Counts (batches ++ f.task.results millis f.orders) := by
  obtain ⟨task, started, orders⟩ := f
  have recorded : (x.stats.record (Order.indexAll x.index millis orders).2 now).Counts
      (batches ++ [Order.outcome Order.toEntry millis orders]) := by
    rw [Order.indexAll_snd]
    exact h.record _ now
  cases task with
  | job j =>
    cases j with
    | incremental | full => exact recorded
    | optimize =>
      simp only [Task.results, List.append_nil]
      show (x.applyOptimize now orders).state.stats.Counts batches
      unfold applyOptimize
      cases orders.mapM Order.sourceId <;> exact h
  | rebuild => exact counts_applyRebuild h started orders
  | one id =>
    cases orders with
    | nil => simpa [apply, Task.results] using h
    | cons o orders => exact recorded

/-- Only a rebuild changes something before it fetches. -/
theorem prepare_eq_self (x : Indexer) {task : Task} (h : task ≠ .rebuild) :
    x.prepare task = x := by
  cases task with
  | rebuild => exact absurd rfl h
  | job _ | one _ => rfl

/-- Asking the source does not depend on what was counted. -/
theorem ask_prepare (x : Indexer) (settings : Settings) (now : Timestamp) (source : OrderSource)
    (task other : Task) :
    (x.prepare task).ask settings now source other = x.ask settings now source other := by
  cases task <;> rfl

end Indexer

namespace Service

/-! ## Calls -/

/-- Something that an operator or the schedule asks the service to do to its index. -/
inductive Call where
  | job (j : Job)
  | one (id : Datum)
  | remove (id : Datum)
  | rebuild

/-- The task that a call runs. -/
def Call.task? : Call → Option Task
  | job j => some (.job j)
  | one id => some (.one id)
  | remove _ => none
  | rebuild => some .rebuild

/-- What becomes of a call. -/
def reply (s : Service) : Call → Reply Service Unit
  | .job j => (s.run (.job j)).map fun _ => ()
  | .one id => (s.reindexOne id).map fun _ => ()
  | .remove id => .answer (s.removeOne id).2 ()
  | .rebuild => s.forceReindex.map fun _ => ()

/-- The orders that a task fetches, if the source answers. -/
def fetched? (s : Service) (task : Task) : Option (List Order) :=
  match s.indexer.ask s.settings s.now s.source task with
  | .ok (.ok orders, _) => some orders
  | _ => none

/-- How the batches go that a task applies. -/
def applied (s : Service) (task : Task) : List BatchResult :=
  (s.fetched? task).toList.flatMap (task.results s.millis)

/-- The account after a call: the batches that the call applies come in addition, but once a rebuild
has begun those before it no longer count. -/
def account (s : Service) (batches : List BatchResult) : Call → List BatchResult
  | .job j => batches ++ s.applied (.job j)
  | .one id => batches ++ s.applied (.one id)
  | .remove _ => batches
  | .rebuild =>
    match s.settings.leavesNoTime with
    | .ok false => s.applied .rebuild
    | _ => batches

/-- A service that has come about by calls, and the batches that it has applied since the last
rebuild began.  Between two calls searches may be made, the source may change and time may pass. -/
inductive Course : List BatchResult → Service → Prop
  | start (settings : Settings) (source : OrderSource) (shared : Option SharedStore)
    (now : Timestamp) : Course [] (.start settings source shared now)
  | meanwhile {batches : List BatchResult} {s : Service} (course : Course batches s)
    (engine : Engine) (source : OrderSource) (now : Timestamp) (stopwatch : Float) :
    Course batches { s with engine, source, now, stopwatch }
  | call {batches : List BatchResult} {s : Service} (course : Course batches s) (c : Call) :
    Course (s.account batches c) (s.reply c).state

/-! ## What a task leaves behind -/

variable {s : Service} {task : Task} {batches : List BatchResult}

/-- A task that cannot fetch fails under its name and leaves nothing behind but what it has
prepared. -/
theorem run_of_unavailable {e : Failure} {source : OrderSource}
    (h : s.indexer.ask s.settings s.now s.source task = .ok (.error e, source)) :
    s.run task = ⟨.error (.jobFailed task.name e.message),
      { s with indexer := s.indexer.prepare task, source }, []⟩ := by
  refine run_of_error ?_
  rw [Indexer.fetch, Indexer.ask_prepare, h]

/-- A task adds the batches that it applies to what was counted when it was prepared. -/
theorem counts_run (task : Task) (h : (s.indexer.prepare task).stats.Counts batches) :
    (s.run task).state.indexer.stats.Counts (batches ++ s.applied task) := by
  unfold applied fetched?
  rw [← Indexer.ask_prepare s.indexer s.settings s.now s.source task task]
  cases asked : (s.indexer.prepare task).ask s.settings s.now s.source task with
  | error e =>
    have failed : (s.indexer.prepare task).fetch s.settings s.now s.source task =
        (.error e, s.source) := by
      rw [Indexer.fetch, asked]
    rw [run_of_error failed]
    simpa using h
  | ok answer =>
    obtain ⟨e | orders, source⟩ := answer
    · rw [run_of_unavailable ((Indexer.ask_prepare ..).symm.trans asked)]
      simpa using h
    · have fetched : (s.indexer.prepare task).fetch s.settings s.now s.source task =
          (.ok ⟨task, s.now, orders⟩, source) := by
        rw [Indexer.fetch, asked]
      rw [run_of_ok fetched]
      simpa [Reply.lift] using Indexer.counts_apply h

/-- Every call keeps the books. -/
theorem counts_reply (h : s.indexer.stats.Counts batches) (c : Call) :
    (s.reply c).state.indexer.stats.Counts (s.account batches c) := by
  cases c with
  | job j => exact counts_run (.job j) h
  | one id => exact counts_run (.one id) h
  | remove id => exact h
  | rebuild =>
    show s.forceReindex.state.indexer.stats.Counts _
    unfold forceReindex runInTime account
    cases s.settings.leavesNoTime with
    | error e => exact h
    | ok noTime =>
      cases noTime with
      | true => exact h
      | false => exact counts_run .rebuild IndexStats.counts_zero

theorem Course.counts (h : Course batches s) : s.indexer.stats.Counts batches := by
  induction h with
  | start => exact IndexStats.counts_zero
  | meanwhile _ _ _ _ _ ih => exact ih
  | call _ c ih => exact counts_reply ih c

end Service

/-! ## An outage

A depot with two orders, of which one is rejected, indexes them and then loses its source. -/

namespace Outage

/-- The source with its orders, while it can be reached and while it cannot. -/
def source (fault : Option String) : OrderSource := .memory
  { orders := [("A", some (.ofAttributes [("id", .str "A")])), ("B", some (.ofAttributes []))]
    fault
    asked := [] }

/-- The depot before it has indexed anything. -/
def opened : Service := .start .default (source none) none (.ofUtc (Shipment.clock 0))

/-- The depot that has indexed its orders. -/
def indexed : Service := (opened.reply (.job .full)).state

/-- The depot without its source. -/
def cut : Service := { indexed with source := source (some "down") }

/-- The batch that the depot has applied. -/
def batch : BatchResult :=
  Order.outcome Order.toEntry 0 [.ofAttributes [("id", .str "A")], .ofAttributes []]

theorem course : Service.Course [batch] cut :=
  .meanwhile (.call (.start .default (source none) none (.ofUtc (Shipment.clock 0))) (.job .full))
    (.start none) (source (some "down")) (.ofUtc (Shipment.clock 0)) 0

end Outage

namespace Service

variable {s : Service} {batches : List BatchResult}

/-- **The books are kept.**  After any course of calls, whether or not they could fetch, the service
reports the size of its index, and the numbers of orders indexed and rejected are the sums over the
batches applied since the last rebuild began.  A call other than a rebuild that cannot fetch fails
under the name of its task and leaves the service as it was, so the window of the incremental job
begins where it would have begun. -/
theorem books_of_course (course : Course batches s) :
    s.stats.documents = s.index.size ∧
      s.stats.indexed = (batches.map BatchResult.indexed).sum ∧
      s.stats.errors = (batches.map BatchResult.failed).sum ∧
      ∀ (c : Call) (task : Task) (e : Failure) (source : OrderSource),
        c.task? = some task → task ≠ .rebuild →
        s.indexer.ask s.settings s.now s.source task = .ok (.error e, source) →
        (s.reply c).result = .error (.jobFailed task.name e.message) ∧
          (s.reply c).state = { s with source } ∧
          ∀ now, (s.reply c).state.indexer.window s.settings now =
            s.indexer.window s.settings now := by
  refine ⟨rfl, course.counts.indexed, course.counts.errors, ?_⟩
  intro c task e source runs other unavailable
  have failed : s.reply c = ⟨.error (.jobFailed task.name e.message), { s with source }, []⟩ := by
    have run := run_of_unavailable unavailable
    rw [Indexer.prepare_eq_self s.indexer other] at run
    cases c with
    | job j | one id =>
      obtain rfl := Option.some.inj runs
      simp only [reply, reindexOne, run]
      rfl
    | remove id => cases runs
    | rebuild => exact absurd (Option.some.inj runs).symm other
  rw [failed]
  exact ⟨rfl, rfl, fun _ => rfl⟩

/-- The depot has counted one order and one rejection, and without its source the incremental job
changes nothing. -/
theorem books_of_outage :
    Course [Outage.batch] Outage.cut ∧ Outage.cut.stats.documents = 1 ∧
      Outage.cut.stats.indexed = 1 ∧ Outage.cut.stats.errors = 1 ∧
      (Outage.cut.reply (.job .incremental)).result =
        .error (.jobFailed "incremental" "down") ∧
      (Outage.cut.reply (.job .incremental)).state = Outage.cut := by
  obtain ⟨documents, indexed, errors, fails⟩ := books_of_course Outage.course
  obtain ⟨result, state, -⟩ := fails (.job .incremental) (.job .incremental)
    (.sourceUnavailable "down") Outage.cut.source rfl nofun rfl
  exact ⟨Outage.course, documents.trans rfl, indexed.trans rfl, errors.trans rfl, result, state⟩

/-- **A forced rebuild that cannot fetch.**  It fails under its name and leaves the index and the
marks as they were, but the counts begin anew, and so the index is reported as stale at any time. -/
theorem forceReindex_of_unavailable {e : Failure} (time : s.settings.leavesNoTime = .ok false)
    (unavailable : s.source.fetchAll = .error e) :
    s.forceReindex.result = .error (.jobFailed "force_reindex" e.message) ∧
      s.forceReindex.state = { s with indexer := { s.indexer with stats := .zero } } ∧
      s.forceReindex.state.index = s.index ∧
      s.forceReindex.state.indexer.marks = s.indexer.marks ∧
      s.forceReindex.state.stats = ⟨s.index.size, 0, 0, none, 0⟩ ∧
      ∀ now, ∃ issues, s.forceReindex.state.health now = .ok issues ∧ .stale ∈ issues := by
  have asked : s.indexer.ask s.settings s.now s.source .rebuild = .ok (.error e, s.source) :=
    congrArg (fun answer => Except.ok (answer, s.source)) unavailable
  have failed : s.forceReindex = ⟨.error (.jobFailed "force_reindex" e.message),
      { s with indexer := { s.indexer with stats := .zero } }, []⟩ := by
    rw [forceReindex, runInTime, time]
    exact run_of_unavailable asked
  rw [failed]
  refine ⟨rfl, rfl, rfl, rfl, rfl, fun now => ⟨_, rfl, ?_⟩⟩
  simp

/-- Without its source the depot keeps its index when it is rebuilt. -/
theorem forceReindex_of_outage :
    Outage.cut.settings.leavesNoTime = .ok false ∧
      Outage.cut.source.fetchAll = .error (.sourceUnavailable "down") ∧
      Outage.cut.forceReindex.result = .error (.jobFailed "force_reindex" "down") ∧
      Outage.cut.forceReindex.state.index = Outage.cut.index ∧ Outage.cut.index.size = 1 := by
  have time : Outage.cut.settings.leavesNoTime = .ok false := rfl
  have unavailable : Outage.cut.source.fetchAll = .error (.sourceUnavailable "down") := rfl
  obtain ⟨result, -, index, -⟩ := forceReindex_of_unavailable time unavailable
  exact ⟨time, unavailable, result, index, rfl⟩

/-- Without its source the depot has forgotten its counts after a rebuild that failed, and reports
an index as stale that it has just updated. -/
theorem not_forceReindex_keeps : ∃ batches, Course batches Outage.cut ∧
    Outage.cut.source.fetchAll = .error (.sourceUnavailable "down") ∧
    Outage.cut.forceReindex.result = .error (.jobFailed "force_reindex" "down") ∧
    Outage.cut.stats.indexed = 1 ∧ Outage.cut.stats.lastUpdate = some Outage.cut.now ∧
    Outage.cut.forceReindex.state.stats.indexed = 0 ∧
    Outage.cut.forceReindex.state.stats.lastUpdate = none ∧
    (Outage.cut.health Outage.cut.now).toOption.map (List.map HealthIssue.text) =
      some ["High indexing error rate: 100.0%"] ∧
    (Outage.cut.forceReindex.state.health Outage.cut.now).toOption.map (List.map HealthIssue.text) =
      some ["Search index has not been updated in the last hour"] :=
  ⟨_, Outage.course, rfl, rfl, rfl, rfl, rfl, rfl, by decide +kernel, by decide +kernel⟩

end Service

end OrderRetrieval

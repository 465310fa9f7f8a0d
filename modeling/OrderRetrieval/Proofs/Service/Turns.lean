import OrderRetrieval.Proofs.Indexing.Convergence
import OrderRetrieval.Service.Basic

/-!
# The tasks of the service take turns

Whatever the service does to its index is a course of events in which tasks take turns, so what
holds of these courses holds of the service: running a task (`Service.run_turns`) and taking out the
document of an order that is gone (`Service.removeOne_turns`).
-/

namespace OrderRetrieval.Service

open Calendar (Moment Timestamp)

/-- The scene of a service whose orders are those of a table. -/
def scene (s : Service) (table : OrderTable) (now : Moment) : Scene := ⟨s.indexer, table, now, []⟩

/-- Asking the order table does not change it. -/
theorem source_of_ask {settings : Settings} {x : Indexer} {now : Timestamp} {table : OrderTable}
    {task : Task} {answer : Except Failure (List Order)} {after : OrderSource}
    (h : x.ask settings now (.table table) task = .ok (answer, after)) : after = .table table := by
  cases task with
  | rebuild | one id =>
    cases h
    rfl
  | job j =>
    cases j with
    | incremental =>
      obtain ⟨since, -, hs⟩ := Except.map_eq_ok.1 h
      cases hs
      rfl
    | full | optimize =>
      cases h
      rfl

theorem source_of_fetch (settings : Settings) (x : Indexer) (now : Timestamp) (table : OrderTable)
    (task : Task) : (x.fetch settings now (.table table) task).2 = .table table := by
  unfold Indexer.fetch
  split
  · rfl
  · next h => exact source_of_ask h
  · next h => exact source_of_ask h

/-- A task whose fetch fails leaves nothing behind but what it has prepared. -/
theorem run_of_error {s : Service} {task : Task} {e : Failure} {source : OrderSource}
    (h : (s.indexer.prepare task).fetch s.settings s.now s.source task = (.error e, source)) :
    s.run task = ⟨.error e, { s with indexer := s.indexer.prepare task, source }, []⟩ := by
  unfold run
  simp only [h]

/-- A task that has fetched applies what it has fetched. -/
theorem run_of_ok {s : Service} {task : Task} {f : Fetched} {source : OrderSource}
    (h : (s.indexer.prepare task).fetch s.settings s.now s.source task = (.ok f, source)) :
    s.run task = ((s.indexer.prepare task).apply s.now s.millis f).lift fun indexer =>
      { s with indexer, source } := by
  unfold run
  simp only [h]

/-- Running a task either fails at the fetch or is a fetch and an application in turn. -/
theorem run_turns {s : Service} {table : OrderTable} {now : Moment} (task : Task)
    (orders : s.source = .table table) (time : s.now = .ofUtc now) :
    (s.run task).state.source = .table table ∧
      ((∃ e, (s.run task).result = .error e ∧
          Scene.Run s.settings Scene.TakesTurns (s.scene table now) [.outage task]
            ((s.run task).state.scene table now)) ∨
        ∃ f, f.task = task ∧
          Scene.Run s.settings Scene.TakesTurns (s.scene table now) [.fetch f, .apply f]
            ((s.run task).state.scene table now)) := by
  have source := source_of_fetch s.settings (s.indexer.prepare task) s.now table task
  rw [← orders] at source
  cases h : (s.indexer.prepare task).fetch s.settings s.now s.source task with
  | mk fetched after =>
    rw [h, orders] at source
    cases fetched with
    | error e =>
      rw [run_of_error h]
      exact ⟨source, .inl ⟨e, rfl, .cons (.inl rfl) .outage .nil⟩⟩
    | ok f =>
      rw [run_of_ok h]
      have answer : ((s.indexer.prepare task).fetch s.settings (.ofUtc now) (.table table) task).1 =
          .ok f := by
        rw [← time, ← orders, h]
      obtain rfl := Indexer.task_of_fetch answer
      refine ⟨source, .inr ⟨f, rfl, .cons (.inl rfl) (.fetch (List.forall_mem_nil _) answer) ?_⟩⟩
      have applied := @Scene.Step.apply s.settings
        ⟨s.indexer.prepare f.task, table, now, [f]⟩ f [] [] s.millis rfl
      rw [← time] at applied
      exact .cons (.inr trivial) applied .nil

/-- Taking out the document of an order that is gone is an event. -/
theorem removeOne_turns {s : Service} {table : OrderTable} {now : Moment} {id : Datum}
    (gone : ∀ r ∈ table.rows, r.id ≠ id.text) :
    Scene.Run s.settings Scene.TakesTurns (s.scene table now) [.remove id]
      ((s.removeOne id).2.scene table now) :=
  .cons (.inl rfl) (.remove gone) .nil

end OrderRetrieval.Service

import OrderRetrieval.Indexing.Basic
import OrderRetrieval.Proofs.Order.Table

/-!
# Indexing tasks that interleave

A scene is an index beside the order table and the clock, with the tasks that have fetched their
orders and not yet applied them.  What may happen in a scene is an event: time passes, an order is
written or dropped, a task fetches, fails to fetch, applies what it fetched or is given up, and the
document of an order that is gone is taken out.  Jobs of one lock are never in flight together.

A row that is written bears the time at which it is written, and the ids of the rows stay different.
-/

namespace OrderRetrieval

open Calendar (Moment Timestamp)

/-- The lock under which a task runs, if it takes one. -/
def Task.lock : Task → Option Job
  | job j => some j
  | rebuild => some .full
  | one _ => none

/-- An index beside the order table and the clock, and the tasks in flight. -/
structure Scene where
  indexer : Indexer
  table : OrderTable
  now : Moment
  pending : List Fetched

/-- What may happen in a scene. -/
inductive Event where
  | tick (now : Moment)
  | write (r : OrderRow)
  | drop (id : String)
  | fetch (f : Fetched)
  | outage (task : Task)
  | apply (f : Fetched)
  | abandon (f : Fetched)
  | remove (id : Datum)

/-- Whether the source changes. -/
def Event.Edits : Event → Prop
  | write _ | drop _ => True
  | _ => False

namespace Scene

/-- One event.  A task in flight takes along the orders as they were when it fetched them. -/
inductive Step (settings : Settings) : Scene → Event → Scene → Prop
  | tick {s : Scene} {now : Moment} (le : s.now.micros ≤ now.micros) :
      Step settings s (.tick now) { s with now }
  | write {s : Scene} {r : OrderRow} {table : OrderTable} (put : s.table.put r = .ok table)
      (changed : r.changedAt = some s.now) : Step settings s (.write r) { s with table }
  | drop {s : Scene} {id : String} :
      Step settings s (.drop id) { s with table := s.table.drop id }
  | fetch {s : Scene} {f : Fetched}
      (free : ∀ g ∈ s.pending, g.task.lock = f.task.lock → f.task.lock = none)
      (answer : ((s.indexer.prepare f.task).fetch settings (.ofUtc s.now) (.table s.table)
        f.task).1 = .ok f) :
      Step settings s (.fetch f)
        { s with indexer := s.indexer.prepare f.task, pending := f :: s.pending }
  | outage {s : Scene} {task : Task} :
      Step settings s (.outage task) { s with indexer := s.indexer.prepare task }
  | apply {s : Scene} {f : Fetched} {before after : List Fetched} {millis : Float}
      (pending : s.pending = before ++ f :: after) :
      Step settings s (.apply f)
        { s with
          indexer := (s.indexer.apply (.ofUtc s.now) millis f).state
          pending := before ++ after }
  | abandon {s : Scene} {f : Fetched} {before after : List Fetched}
      (pending : s.pending = before ++ f :: after) :
      Step settings s (.abandon f) { s with pending := before ++ after }
  | remove {s : Scene} {id : Datum} (gone : ∀ r ∈ s.table.rows, r.id ≠ id.text) :
      Step settings s (.remove id) { s with indexer := (s.indexer.removeOne id).2 }

/-- A course of events, each of which is allowed to lead from the scene in which it happens to the
next one. -/
inductive Run (settings : Settings) (allowed : Scene → Event → Scene → Prop) :
    Scene → List Event → Scene → Prop
  | nil {s : Scene} : Run settings allowed s [] s
  | cons {s t u : Scene} {e : Event} {es : List Event} (ok : allowed s e t)
      (step : Step settings s e t) (rest : Run settings allowed t es u) :
      Run settings allowed s (e :: es) u

variable {settings : Settings} {allowed : Scene → Event → Scene → Prop}

/-- What is kept by every event that is allowed holds to the end of a course of events. -/
theorem Run.keeps {I : Scene → Prop} {s t : Scene} {es : List Event}
    (keep : ∀ {s t : Scene} {e : Event}, I s → allowed s e t → Step settings s e t → I t)
    (run : Run settings allowed s es t) (first : I s) : I t := by
  induction run with
  | nil => exact first
  | cons ok step _ ih => exact ih (keep first ok step)

/-- A course of events begins with its first event. -/
theorem Run.uncons {s u : Scene} {e : Event} {es : List Event}
    (run : Run settings allowed s (e :: es) u) :
    ∃ t, allowed s e t ∧ Step settings s e t ∧ Run settings allowed t es u := by
  cases run with
  | cons ok step rest => exact ⟨_, ok, step, rest⟩

/-- A course of events can be cut anywhere. -/
theorem Run.of_append {s u : Scene} {es es' : List Event}
    (run : Run settings allowed s (es ++ es') u) :
    ∃ t, Run settings allowed s es t ∧ Run settings allowed t es' u := by
  induction es generalizing s with
  | nil => exact ⟨s, .nil, run⟩
  | cons e es ih =>
    obtain ⟨t, ok, step, rest⟩ := run.uncons
    obtain ⟨u, first, last⟩ := ih rest
    exact ⟨u, .cons ok step first, last⟩

/-- A course of events ends with its last event. -/
theorem Run.of_concat {s u : Scene} {es : List Event} {e : Event}
    (run : Run settings allowed s (es ++ [e]) u) :
    ∃ t, Run settings allowed s es t ∧ allowed t e u ∧ Step settings t e u := by
  obtain ⟨t, first, last⟩ := run.of_append
  obtain ⟨v, ok, step, rest⟩ := last.uncons
  cases rest
  exact ⟨t, first, ok, step⟩

/-- What is allowed may be loosened, also in view of the events that happen. -/
theorem Run.imp {permitted : Scene → Event → Scene → Prop} {s t : Scene} {es : List Event}
    (h : ∀ {s t : Scene}, ∀ e ∈ es, allowed s e t → permitted s e t)
    (run : Run settings allowed s es t) : Run settings permitted s es t := by
  induction run with
  | nil => exact .nil
  | cons ok step _ ih =>
    refine .cons (h _ List.mem_cons_self ok) step (ih ?_)
    intro s t e he
    exact h e (List.mem_cons_of_mem _ he)

/-! ### What a single event changes -/

/-- Only writing brings new rows. -/
theorem Step.rows {s t : Scene} {e : Event} (step : Step settings s e t) {r : OrderRow}
    (hr : r ∈ t.table.rows) : r ∈ s.table.rows ∨ e = .write r := by
  cases step with
  | write put _ =>
    rcases (OrderTable.mem_put put).1 hr with ⟨h, -⟩ | rfl
    · exact .inl h
    · exact .inr rfl
  | drop => exact .inl (OrderTable.mem_drop.1 hr).1
  | _ => exact .inl hr

/-- The ids of the rows stay different. -/
theorem Step.uniqueIds {s t : Scene} {e : Event} (step : Step settings s e t)
    (h : s.table.UniqueIds) : t.table.UniqueIds := by
  cases step with
  | write put _ => exact h.put put
  | drop => exact h.drop _
  | _ => exact h

/-- The other tasks in flight are in flight. -/
theorem mem_of_rest {s : Scene} {f g : Fetched} {before after : List Fetched}
    (pending : s.pending = before ++ f :: after) (hg : g ∈ before ++ after) : g ∈ s.pending := by
  rw [pending]
  exact ((List.sublist_cons_self f after).append_left before).mem hg

/-- Where there is at most one task in flight, there are none beside it. -/
theorem nil_of_alone {s : Scene} {f : Fetched} {before after : List Fetched}
    (alone : s.pending.length ≤ 1) (pending : s.pending = before ++ f :: after) :
    before = [] ∧ after = [] := by
  rw [pending] at alone
  simp only [List.length_append, List.length_cons] at alone
  exact ⟨List.length_eq_zero_iff.1 (by omega), List.length_eq_zero_iff.1 (by omega)⟩

/-- Whether no two tasks in flight share a lock. -/
def Locked (s : Scene) : Prop :=
  s.pending.Pairwise fun f g => f.task.lock = g.task.lock → f.task.lock = none

theorem Step.locked {s t : Scene} {e : Event} (step : Step settings s e t) (h : s.Locked) :
    t.Locked := by
  cases step with
  | fetch free _ =>
    refine List.pairwise_cons.2 ⟨fun g hg same => free g hg same.symm, h⟩
  | apply pending | abandon pending =>
    unfold Locked at h
    rw [pending] at h
    exact h.sublist ((List.sublist_cons_self _ _).append_left _)
  | _ => exact h

/-- A task in flight does not share its lock with any of the others. -/
theorem Locked.lock_of_mem {s : Scene} (h : s.Locked) {f g : Fetched} {before after : List Fetched}
    (pending : s.pending = before ++ f :: after) (hg : g ∈ before ++ after)
    (same : f.task.lock = g.task.lock) : f.task.lock = none := by
  unfold Locked at h
  rw [pending, List.pairwise_append, List.pairwise_cons] at h
  obtain ⟨-, ⟨below, -⟩, above⟩ := h
  rcases List.mem_append.1 hg with hg | hg
  · rw [same]
    exact above g hg f List.mem_cons_self same.symm
  · exact below g hg same

end Scene

end OrderRetrieval

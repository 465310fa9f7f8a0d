import OrderRetrieval.Proofs.Indexing.Effect
import OrderRetrieval.Proofs.Indexing.Interleaving

/-!
# No change is lost

A scene owes a row if the row will be fetched by whichever incremental task succeeds next: it was
changed since the last one that succeeded began, and one that is in flight has fetched it or began
before it was changed.  What carries every course of events is that each row of the source is either
reflected by the index or owed (`Scene.Sound.covered`).

A task in flight knows the source as it was when it fetched, so it can only set back a row that was
changed since (`Fetched.Tracks`).  A task is timely if every row whose document it may set back is
owed once it has been applied.  Incremental tasks are always timely
(`Scene.Sound.timely_incremental`), and so is a rebuild if no incremental task is in flight
(`Scene.Sound.timely_rebuild`).
-/

namespace OrderRetrieval

open Calendar (Moment Timestamp)

/-- Whether a timestamp stands for a moment that has come. -/
def Calendar.Timestamp.HasCome (t : Timestamp) (now : Moment) : Prop :=
  ∃ m ∈ t.utc?, m.micros ≤ now.micros

namespace Scene

/-- Whether a row will be fetched by whichever incremental task succeeds next. -/
structure Owes (s : Scene) (r : OrderRow) : Prop where
  marked : ∃ t ∈ s.indexer.marks.incremental, r.ChangedSince t
  inFlight : ∀ f ∈ s.pending, f.task = .job .incremental →
    r.toOrder ∈ f.orders ∨ r.ChangedSince f.started

/-- Whether the index holds the document of every row as it is now, of those that have one. -/
def UpToDate (s : Scene) : Prop := ∀ r ∈ s.table.rows, s.indexer.index.Reflects r

end Scene

namespace Fetched

/-- Whether a task may have fetched from a table.  An incremental one has fetched every row that was
changed when the task began. -/
structure Origin (f : Fetched) (t : OrderTable) : Prop where
  unique : t.UniqueIds
  stems : f.Stems t
  recent : f.task = .job .incremental →
    ∀ r ∈ t.rows, r.ChangedSince f.started → r.toOrder ∈ f.orders

/-- Whether the rows of a table that a task in flight does not know were changed since it began. -/
def Tracks (f : Fetched) (t : OrderTable) : Prop :=
  ∃ origin, f.Origin origin ∧ ∀ r ∈ t.rows, r ∈ origin.rows ∨ r.ChangedSince f.started

/-- Whether a task in flight knows every row of a table. -/
def Knows (f : Fetched) (t : OrderTable) : Prop :=
  ∃ origin, f.Origin origin ∧ ∀ r ∈ t.rows, r ∈ origin.rows

end Fetched

namespace Scene

/-- Whether an event leaves no row behind: if a task is applied, every row whose document it touches
and that it has not fetched as it is now will be fetched again. -/
def Timely (_ : Scene) (e : Event) (t : Scene) : Prop :=
  match e with
  | .apply f => ∀ r ∈ t.table.rows, f.Touches r.id → r.toOrder ∈ f.orders ∨ t.Owes r
  | _ => True

/-- The invariant of a course of events. -/
structure Sound (s : Scene) : Prop where
  uniqueIds : s.table.UniqueIds
  locked : s.Locked
  marked : ∃ t ∈ s.indexer.marks.incremental, t.HasCome s.now
  begun : ∀ f ∈ s.pending, f.started.HasCome s.now
  covered : ∀ r ∈ s.table.rows, s.indexer.index.Reflects r ∨ s.Owes r
  tracked : ∀ f ∈ s.pending, f.Tracks s.table

end Scene

/-! ## Time -/

section Time

variable {t : Timestamp} {now later : Moment} {r : OrderRow}

theorem Calendar.Timestamp.HasCome.mono (h : t.HasCome now) (le : now.micros ≤ later.micros) :
    t.HasCome later := by
  obtain ⟨m, hm, hn⟩ := h
  exact ⟨m, hm, Nat.le_trans hn le⟩

theorem Calendar.Timestamp.hasCome_ofUtc (now : Moment) : (Timestamp.ofUtc now).HasCome now :=
  ⟨now, Timestamp.utc?_ofUtc now, Nat.le_refl _⟩

/-- A row that is changed now was changed since anything that has come. -/
theorem OrderRow.changedSince_of_hasCome (h : t.HasCome now) (changed : r.changedAt = some now) :
    r.ChangedSince t := by
  obtain ⟨m, hm, hn⟩ := h
  exact ⟨m, hm, now, changed, hn⟩

/-- A row that was changed since now was changed since anything that has come. -/
theorem OrderRow.ChangedSince.of_hasCome (changed : r.ChangedSince (.ofUtc now))
    (h : t.HasCome now) : r.ChangedSince t := by
  obtain ⟨m, hm, hn⟩ := h
  obtain ⟨n, hnow, from'⟩ := changed
  obtain rfl : now = n := by
    rw [Timestamp.utc?_ofUtc] at hnow
    exact Option.some.inj hnow
  exact ⟨m, hm, from'.mono hn⟩

end Time

/-! ## What a task in flight knows -/

namespace Fetched

variable {settings : Settings} {s t : Scene} {e : Event} {f : Fetched} {r : OrderRow}

theorem Knows.tracks {t : OrderTable} (h : f.Knows t) : f.Tracks t := by
  obtain ⟨origin, ho, known⟩ := h
  exact ⟨origin, ho, fun r hr => .inl (known r hr)⟩

/-- A task that has just fetched knows every row. -/
theorem knows_of_fetch {x : Indexer} {t : OrderTable} {now : Moment} {task : Task}
    (unique : t.UniqueIds)
    (marked : ∃ m ∈ x.marks.incremental, m.HasCome now)
    (answer : (x.fetch settings (.ofUtc now) (.table t) task).1 = .ok f) : f.Knows t := by
  refine ⟨t, ⟨unique, Indexer.stems_of_fetch answer, ?_⟩, fun r hr => hr⟩
  intro incremental r hr changed
  obtain ⟨m, hm, come⟩ := marked
  obtain rfl : task = .job .incremental := by rw [← incremental, Indexer.task_of_fetch answer]
  rw [Indexer.started_of_fetch answer] at changed
  exact Indexer.mem_of_fetch_incremental answer hm hr (changed.of_hasCome come)

/-- A row that comes up while a task is in flight was changed since the task began. -/
theorem Tracks.step (tracks : f.Tracks s.table) (begun : f.started.HasCome s.now)
    (step : Scene.Step settings s e t) : f.Tracks t.table := by
  obtain ⟨origin, ho, known⟩ := tracks
  refine ⟨origin, ho, fun r hr => ?_⟩
  cases step with
  | write put changed =>
    rcases (OrderTable.mem_put put).1 hr with ⟨hr, -⟩ | rfl
    · exact known r hr
    · exact .inr (OrderRow.changedSince_of_hasCome begun changed)
  | drop => exact known r (OrderTable.mem_drop.1 hr).1
  | _ => exact known r hr

/-- No row comes up while nothing is written. -/
theorem Knows.step (knows : f.Knows s.table) (rests : ∀ r, e ≠ .write r)
    (step : Scene.Step settings s e t) : f.Knows t.table := by
  obtain ⟨origin, ho, known⟩ := knows
  refine ⟨origin, ho, fun r hr => ?_⟩
  rcases step.rows hr with hr | he
  · exact known r hr
  · exact absurd he (rests r)

/-- What a task in flight has fetched can be stored. -/
theorem Tracks.storable {t : OrderTable} (tracks : f.Tracks t) : Order.Storable f.orders := by
  obtain ⟨origin, ho, -⟩ := tracks
  exact ho.stems.storable

/-- If a task touches the document of a row that it has not fetched as it is now, the row was
changed since the task began. -/
theorem Tracks.changedSince {t : OrderTable} (tracks : f.Tracks t) (hr : r ∈ t.rows)
    (touches : f.Touches r.id) (missed : r.toOrder ∉ f.orders) : r.ChangedSince f.started := by
  obtain ⟨origin, ho, known⟩ := tracks
  rcases known r hr with horigin | changed
  · exact absurd (ho.stems.mem_of_touches ho.unique horigin touches).1 missed
  · exact changed

/-- An order that was fetched is the order of a row, which has its id. -/
theorem Origin.reflects_of_mem {t : OrderTable} (origin : f.Origin t) (ho : r.toOrder ∈ f.orders)
    (inserts : f.task ≠ .job .optimize) (x : Indexer) (now : Timestamp) (millis : Float) :
    (x.apply now millis f).state.index.Reflects r := by
  obtain ⟨q, hq, same⟩ := origin.stems.of_row _ ho
  have sameId : q.id = r.id := by
    have h := OrderRow.sourceId_toOrder q
    rw [same, OrderRow.sourceId_toOrder] at h
    exact (Except.ok.inj h).symm
  intro d hd
  rw [← sameId]
  rw [← same] at hd ho
  exact origin.stems.reflects_apply_of_mem origin.unique hq ho inserts x now millis d hd

/-- A row stays reflected unless a task is applied that touches its document and has not fetched the
row as it is now. -/
theorem Origin.reflects_apply {t : OrderTable} (origin : f.Origin t) {x : Indexer}
    (reflects : x.index.Reflects r) (fetched : f.Touches r.id → r.toOrder ∈ f.orders)
    (now : Timestamp) (millis : Float) : (x.apply now millis f).state.index.Reflects r := by
  by_cases touches : f.Touches r.id
  · have ho := fetched touches
    refine origin.reflects_of_mem ho ?_ x now millis
    intro optimize
    unfold Touches at touches
    rw [optimize] at touches
    exact touches _ ho (OrderRow.sourceId_toOrder r)
  · exact reflects.congr (origin.stems.get?_apply x now millis touches)

end Fetched

namespace Scene

variable {settings : Settings} {s t : Scene} {e : Event} {f : Fetched} {r : OrderRow}

/-! ## Applying what was fetched -/

theorem Step.mem_of_apply (step : Step settings s (.apply f) t) : f ∈ s.pending := by
  cases step with
  | apply pending => simp [pending]

/-- Only one incremental task is in flight at a time. -/
theorem Step.no_incremental (step : Step settings s (.apply f) t) (locked : s.Locked)
    (incremental : f.task = .job .incremental) :
    ∀ g ∈ t.pending, g.task ≠ .job .incremental := by
  cases step with
  | apply pending =>
    intro g hg same
    have free := locked.lock_of_mem pending hg (by rw [incremental, same])
    rw [incremental] at free
    cases free

/-- A row that was changed since a task began is owed after the task has moved the mark, unless an
incremental task is in flight. -/
theorem Sound.owes_of_movesMark (sound : s.Sound) (step : Step settings s (.apply f) t)
    (moves : f.task.MovesMark) (apart : ∀ g ∈ t.pending, g.task ≠ .job .incremental)
    (changed : r.ChangedSince f.started) : t.Owes r := by
  refine ⟨⟨f.started, ?_, changed⟩, fun g hg incremental => absurd incremental (apart g hg)⟩
  have storable := (sound.tracked f step.mem_of_apply).storable
  cases step with
  | apply _ => exact Indexer.mark_apply _ _ _ moves storable

/-- What is owed stays so if the mark is not moved. -/
theorem Step.owes_of_not_movesMark (step : Step settings s (.apply f) t)
    (stays : ¬f.task.MovesMark) (owed : s.Owes r) : t.Owes r := by
  cases step with
  | @apply _ before after millis pending =>
    obtain ⟨⟨m, hm, changed⟩, inFlight⟩ := owed
    refine ⟨⟨m, ?_, changed⟩, fun g hg => inFlight g ?_⟩
    · exact (Indexer.mark_apply_of_not_movesMark s.indexer _ millis stays).trans hm
    · exact mem_of_rest pending hg

/-- An incremental task is always timely. -/
theorem Sound.timely_incremental (sound : s.Sound) (step : Step settings s (.apply f) t)
    (incremental : f.task = .job .incremental) : s.Timely (.apply f) t := by
  intro r hr touches
  by_cases ho : r.toOrder ∈ f.orders
  · exact .inl ho
  · right
    have tracks := (sound.tracked f step.mem_of_apply).step (sound.begun f step.mem_of_apply) step
    exact sound.owes_of_movesMark step (Task.movesMark_iff.2 (.inl incremental))
      (step.no_incremental sound.locked incremental) (tracks.changedSince hr touches ho)

/-- A rebuild is timely if no incremental task is in flight. -/
theorem Sound.timely_rebuild (sound : s.Sound) (step : Step settings s (.apply f) t)
    (rebuild : f.task = .rebuild) (apart : ∀ g ∈ t.pending, g.task ≠ .job .incremental) :
    s.Timely (.apply f) t := by
  intro r hr touches
  by_cases ho : r.toOrder ∈ f.orders
  · exact .inl ho
  · right
    have tracks := (sound.tracked f step.mem_of_apply).step (sound.begun f step.mem_of_apply) step
    exact sound.owes_of_movesMark step (Task.movesMark_iff.2 (.inr rebuild)) apart
      (tracks.changedSince hr touches ho)

/-- A task that knows every row is timely. -/
theorem timely_of_knows (knows : f.Knows t.table) : s.Timely (.apply f) t := by
  intro r hr touches
  obtain ⟨origin, ho, known⟩ := knows
  exact .inl (ho.stems.mem_of_touches ho.unique (known r hr) touches).1

/-! ## What an event keeps -/

/-- There is a mark, and it is a moment that has come. -/
theorem Sound.marked_step (sound : s.Sound) (step : Step settings s e t) :
    ∃ m ∈ t.indexer.marks.incremental, m.HasCome t.now := by
  obtain ⟨m, hm, come⟩ := sound.marked
  cases step with
  | tick le => exact ⟨m, hm, come.mono le⟩
  | fetch _ _ | outage =>
    refine ⟨m, ?_, come⟩
    rw [Indexer.marks_prepare]
    exact hm
  | @apply f _ _ millis pending =>
    have mem : f ∈ s.pending := by simp [pending]
    by_cases moves : f.task.MovesMark
    · have storable := (sound.tracked f mem).storable
      exact ⟨_, Indexer.mark_apply _ _ _ moves storable, sound.begun f mem⟩
    · exact ⟨m, (Indexer.mark_apply_of_not_movesMark s.indexer _ millis moves).trans hm, come⟩
  | _ => exact ⟨m, hm, come⟩

/-- The tasks in flight have begun. -/
theorem Sound.begun_step (sound : s.Sound) (step : Step settings s e t) :
    ∀ f ∈ t.pending, f.started.HasCome t.now := by
  intro f hf
  cases step with
  | tick le => exact (sound.begun f hf).mono le
  | fetch _ answer =>
    rcases List.mem_cons.1 hf with rfl | hf
    · rw [Indexer.started_of_fetch answer]
      exact Timestamp.hasCome_ofUtc s.now
    · exact sound.begun f hf
  | apply pending | abandon pending => exact sound.begun f (mem_of_rest pending hf)
  | _ => exact sound.begun f hf

/-- The tasks in flight know all but the rows that were changed since. -/
theorem Sound.tracked_step (sound : s.Sound) (step : Step settings s e t) :
    ∀ f ∈ t.pending, f.Tracks t.table := by
  intro f hf
  by_cases old : f ∈ s.pending
  · exact (sound.tracked f old).step (sound.begun f old) step
  · cases step with
    | fetch _ answer =>
      rcases List.mem_cons.1 hf with rfl | hf
      · refine (Fetched.knows_of_fetch sound.uniqueIds ?_ answer).tracks
        rw [Indexer.marks_prepare]
        exact sound.marked
      · exact absurd hf old
    | apply pending | abandon pending => exact absurd (mem_of_rest pending hf) old
    | _ => exact absurd hf old

/-- Applying a task that is timely keeps every row reflected or owed. -/
theorem Sound.covered_apply (sound : s.Sound) (step : Step settings s (.apply f) t)
    (ok : s.Timely (.apply f) t) (hr : r ∈ t.table.rows) :
    t.indexer.index.Reflects r ∨ t.Owes r := by
  by_cases owed : t.Owes r
  · exact .inr owed
  · left
    have fetched (touches : f.Touches r.id) : r.toOrder ∈ f.orders :=
      (ok r hr touches).resolve_right owed
    obtain ⟨origin, ho, -⟩ := sound.tracked f step.mem_of_apply
    have hrs : r ∈ s.table.rows := (step.rows hr).resolve_right (by simp)
    rcases sound.covered r hrs with reflects | before
    · cases step with
      | apply _ => exact ho.reflects_apply reflects fetched _ _
    · -- What was owed before and is not owed now was fetched by a task that has moved the mark.
      have moves : f.task.MovesMark := by
        by_contra stays
        exact owed (step.owes_of_not_movesMark stays before)
      have mem : r.toOrder ∈ f.orders := by
        rcases Task.movesMark_iff.1 moves with incremental | rebuild
        · refine (before.inFlight f step.mem_of_apply incremental).resolve_right fun changed => ?_
          exact owed (sound.owes_of_movesMark step moves
            (step.no_incremental sound.locked incremental) changed)
        · refine fetched ?_
          unfold Fetched.Touches
          rw [rebuild]
          trivial
      have inserts : f.task ≠ .job .optimize := by
        intro optimize
        rw [optimize] at moves
        exact moves
      cases step with
      | apply _ => exact ho.reflects_of_mem mem inserts _ _ _

/-- Every row is reflected or owed. -/
theorem Sound.covered_step (sound : s.Sound) (ok : s.Timely e t) (step : Step settings s e t) :
    ∀ r ∈ t.table.rows, t.indexer.index.Reflects r ∨ t.Owes r := by
  intro r hr
  cases step with
  | write put changed =>
    rcases (OrderTable.mem_put put).1 hr with ⟨hr, -⟩ | rfl
    · exact (sound.covered r hr).imp_right fun owed => ⟨owed.marked, owed.inFlight⟩
    · obtain ⟨m, hm, come⟩ := sound.marked
      refine .inr ⟨⟨m, hm, OrderRow.changedSince_of_hasCome come changed⟩, fun f hf _ => .inr ?_⟩
      exact OrderRow.changedSince_of_hasCome (sound.begun f hf) changed
  | drop =>
    refine (sound.covered r (OrderTable.mem_drop.1 hr).1).imp_right fun owed => ?_
    exact ⟨owed.marked, owed.inFlight⟩
  | @fetch f free answer =>
    rw [Indexer.index_prepare]
    refine (sound.covered r hr).imp_right fun owed => ⟨?_, fun g hg incremental => ?_⟩
    · rw [Indexer.marks_prepare]
      exact owed.marked
    · rcases List.mem_cons.1 hg with rfl | hg
      · obtain ⟨m, hm, changed⟩ := owed.marked
        rw [← Indexer.marks_prepare s.indexer g.task] at hm
        rw [incremental] at answer hm
        exact .inl (Indexer.mem_of_fetch_incremental answer hm hr changed)
      · exact owed.inFlight g hg incremental
  | outage =>
    rw [Indexer.index_prepare]
    refine (sound.covered r hr).imp_right fun owed => ⟨?_, owed.inFlight⟩
    rw [Indexer.marks_prepare]
    exact owed.marked
  | @apply f _ _ millis pending =>
    exact sound.covered_apply (@Step.apply settings s f _ _ millis pending) ok hr
  | abandon pending =>
    refine (sound.covered r hr).imp_right fun owed => ⟨owed.marked, fun g hg => ?_⟩
    exact owed.inFlight g (mem_of_rest pending hg)
  | @remove id gone =>
    rcases sound.covered r hr with reflects | owed
    · refine .inl (reflects.congr ?_)
      show (s.indexer.index.delete id.text).get? r.id = _
      rw [Index.get?_delete, if_neg (gone r hr)]
    · exact .inr ⟨owed.marked, owed.inFlight⟩
  | _ => exact (sound.covered r hr).imp_right fun owed => ⟨owed.marked, owed.inFlight⟩

/-- An event that leaves no row behind keeps the invariant. -/
theorem Sound.step (sound : s.Sound) (ok : s.Timely e t) (step : Step settings s e t) :
    t.Sound where
  uniqueIds := step.uniqueIds sound.uniqueIds
  locked := step.locked sound.locked
  marked := sound.marked_step step
  begun := sound.begun_step step
  covered := sound.covered_step ok step
  tracked := sound.tracked_step step

/-- An incremental task that knows every row leaves the index up to date. -/
theorem Sound.upToDate (sound : s.Sound) (step : Step settings s (.apply f) t)
    (incremental : f.task = .job .incremental) (knows : f.Knows s.table) : t.UpToDate := by
  obtain ⟨origin, ho, known⟩ := knows
  cases step with
  | @apply _ before after millis pending =>
    intro r hr
    rcases sound.covered r hr with reflects | owed
    · refine ho.reflects_apply reflects (fun touches => ?_) _ _
      exact (ho.stems.mem_of_touches ho.unique (known r hr) touches).1
    · have mem : r.toOrder ∈ f.orders :=
        (owed.inFlight f (by simp [pending]) incremental).elim id fun changed =>
          ho.recent incremental r (known r hr) changed
      exact ho.reflects_of_mem mem (by simp [incremental]) _ _ _

end Scene

end OrderRetrieval

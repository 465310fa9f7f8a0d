import OrderRetrieval.Indexing.Basic
import OrderRetrieval.Proofs.Index.Lookup
import OrderRetrieval.Proofs.Order.Table
import OrderRetrieval.Proofs.Outcome

/-!
# What a task does to the index

A task that fetches from the order table gets orders of its rows (`Indexer.stems_of_fetch`), the
incremental one all that were changed since the last one began (`Indexer.mem_of_fetch_incremental`).
When the task applies what it has fetched, the index gains or loses documents
(`Indexer.index_apply`) and the mark of the incremental job may move (`Indexer.mark_apply`).

The index reflects a row if it holds the document that the row has now.  A task that inserts what it
has fetched makes the index reflect the rows among it (`Fetched.Stems.reflects_apply_of_mem`), and
documents that the task does not touch stay as they are (`Fetched.Stems.get?_apply`).
-/

namespace OrderRetrieval

open Calendar (Moment Timestamp)

/-! ## Fetching -/

/-- The moment so many microseconds earlier, or the first one of all. -/
def Calendar.Moment.back (m : Moment) (micros : Nat) : Moment :=
  ⟨m.micros - micros, Nat.lt_of_le_of_lt (Nat.sub_le _ _) m.micros_lt⟩

theorem Calendar.Moment.shift?_neg {m : Moment} {micros : Nat} (h : micros ≤ m.micros) :
    m.shift? (-micros) = some (m.back micros) := by
  have earlier : (m.micros : Int) + -micros = Int.ofNat (m.micros - micros) := by
    rw [Int.ofNat_eq_natCast]
    omega
  unfold shift? ofMicros?
  rw [earlier]
  exact dif_pos (m.back micros).micros_lt

/-- Whether a task fetches every order. -/
def Task.TakesAll : Task → Prop
  | job .full | job .optimize | rebuild => True
  | job .incremental | one _ => False

/-- Whether a task that is applied moves the mark of the incremental job. -/
def Task.MovesMark : Task → Prop
  | job .incremental | rebuild => True
  | job .full | job .optimize | one _ => False

/-- Only incremental tasks and rebuilds move the mark. -/
theorem Task.movesMark_iff {task : Task} :
    task.MovesMark ↔ task = .job .incremental ∨ task = .rebuild := by
  cases task with
  | job j => cases j <;> simp [MovesMark]
  | rebuild | one id => simp [MovesMark]

/-- Whether a row was last changed at the time of a timestamp or later. -/
def OrderRow.ChangedSince (r : OrderRow) (t : Timestamp) : Prop := ∃ m ∈ t.utc?, r.ChangedFrom m

/-- Whether what was fetched comes from a table: nothing but orders of its rows, and those of all
its rows if the task fetches every order. -/
structure Fetched.Stems (f : Fetched) (t : OrderTable) : Prop where
  of_row : ∀ o ∈ f.orders, ∃ r ∈ t.rows, r.toOrder = o
  all : f.task.TakesAll → ∀ r ∈ t.rows, r.toOrder ∈ f.orders

namespace Indexer

variable {settings : Settings} {x : Indexer} {now : Timestamp} {t : OrderTable} {task : Task}
  {f : Fetched}

@[simp] theorem index_prepare (x : Indexer) (task : Task) : (x.prepare task).index = x.index := by
  cases task <;> rfl

@[simp] theorem marks_prepare (x : Indexer) (task : Task) : (x.prepare task).marks = x.marks := by
  cases task <;> rfl

/-- A fetch succeeds if the source has an answer. -/
theorem fetch_eq_ok {source : OrderSource} :
    (x.fetch settings now source task).1 = .ok f ↔
      ∃ orders after, x.ask settings now source task = .ok (.ok orders, after) ∧
        f = ⟨task, now, orders⟩ := by
  unfold fetch
  rcases x.ask settings now source task with e | ⟨e | orders, after⟩
  · simp
  · simp
  · simp [eq_comm]

theorem task_of_fetch {source : OrderSource}
    (h : (x.fetch settings now source task).1 = .ok f) : f.task = task := by
  obtain ⟨_, _, -, rfl⟩ := fetch_eq_ok.1 h
  rfl

theorem started_of_fetch {source : OrderSource}
    (h : (x.fetch settings now source task).1 = .ok f) : f.started = now := by
  obtain ⟨_, _, -, rfl⟩ := fetch_eq_ok.1 h
  rfl

/-- The window of the incremental task begins where the last one that succeeded began. -/
theorem window_eq_ok {since last : Timestamp} (h : x.window settings now = .ok since)
    (marked : x.marks.incremental = some last) : since = last := by
  unfold window at h
  obtain ⟨span, -, h⟩ := Except.bind_eq_ok.1 h
  split at h
  · contradiction
  · rw [marked] at h
    exact (Except.ok.inj h).symm

/-- Without a mark the window is one interval long. -/
theorem window_of_interval {micros : Nat} (x : Indexer)
    (interval : settings.incrementalInterval.toSpan = .ok (micros : Int))
    (late : micros ≤ now.reading.micros) :
    x.window settings now =
      .ok (x.marks.incremental.getD { now with reading := now.reading.back micros }) := by
  unfold window Timestamp.shift?
  rw [interval]
  simp only [bind, Except.bind, Moment.shift?_neg late, Option.map]

/-- A task that fetches every order gets what the source holds and leaves the source alone. -/
theorem fetch_of_fetchAll {source : OrderSource} {orders : List Order} (x : Indexer)
    (settings : Settings) (now : Timestamp) (h : task.TakesAll)
    (all : source.fetchAll = .ok orders) :
    x.fetch settings now source task = (.ok ⟨task, now, orders⟩, source) := by
  have asked : x.ask settings now source task = .ok (source.fetchAll, source) := by
    cases task with
    | rebuild => rfl
    | one id => exact h.elim
    | job j =>
      cases j with
      | incremental => exact h.elim
      | full | optimize => rfl
  unfold fetch
  rw [asked, all]

/-- A task that fetches every order from the table succeeds. -/
theorem fetch_takesAll (x : Indexer) (settings : Settings) (now : Timestamp) (t : OrderTable)
    (h : task.TakesAll) :
    (x.fetch settings now (.table t) task).1 = .ok ⟨task, now, t.all.map OrderRow.toOrder⟩ := by
  rw [fetch_of_fetchAll x settings now h (rfl : (OrderSource.table t).fetchAll = _)]

/-- An incremental task succeeds in fetching from the table if its window is a moment. -/
theorem fetch_incremental {since : Timestamp} {m : Moment}
    (window : x.window settings now = .ok since) (hm : since.utc? = some m) :
    (x.fetch settings now (.table t) (.job .incremental)).1 =
      .ok ⟨.job .incremental, now, (t.changedSince m).map OrderRow.toOrder⟩ := by
  refine fetch_eq_ok.2 ⟨_, .table t, ?_, rfl⟩
  simp only [ask, window, Except.map, OrderSource.fetchChangedSince, OrderTable.changedAfter,
    Timestamp.moment, hm]

/-- The order table answers an incremental task with the rows that were changed in its window. -/
theorem ask_incremental_eq_ok {orders : List Order} {after : OrderSource}
    (h : x.ask settings now (.table t) (.job .incremental) = .ok (.ok orders, after)) :
    ∃ since m, x.window settings now = .ok since ∧ since.utc? = some m ∧
      orders = (t.changedSince m).map OrderRow.toOrder := by
  unfold ask at h
  obtain ⟨since, hw, ha⟩ := Except.map_eq_ok.1 h
  unfold OrderSource.fetchChangedSince OrderTable.changedAfter Timestamp.moment at ha
  cases hm : since.utc? with
  | none =>
    rw [hm] at ha
    simp [Except.map] at ha
  | some m =>
    rw [hm] at ha
    simp only [Except.map, Prod.mk.injEq, Except.ok.injEq] at ha
    exact ⟨since, m, hw, hm, ha.1.symm⟩

/-- The order table answers the update of one order with the row of its id, if there is one. -/
theorem ask_one_eq_ok {id : Datum} {orders : List Order} {after : OrderSource}
    (h : x.ask settings now (.table t) (.one id) = .ok (.ok orders, after)) :
    ∃ r, t.findBy id = .ok r ∧ orders = (r.map OrderRow.toOrder).toList := by
  unfold ask OrderSource.fetchOne at h
  simp only [Except.ok.injEq, Prod.mk.injEq] at h
  obtain ⟨o, ho, rfl⟩ := Except.map_eq_ok.1 h.1
  obtain ⟨r, hr, rfl⟩ := Except.map_eq_ok.1 ho
  exact ⟨r, hr, rfl⟩

/-- What is fetched from a table stems from it. -/
theorem stems_of_fetch (h : (x.fetch settings now (.table t) task).1 = .ok f) : f.Stems t := by
  obtain ⟨orders, after, ha, rfl⟩ := fetch_eq_ok.1 h
  have everything : ∀ o, o ∈ t.all.map OrderRow.toOrder ↔ ∃ r ∈ t.rows, r.toOrder = o := by
    intro o
    simp only [List.mem_map, OrderTable.mem_all]
  cases task with
  | one id =>
    obtain ⟨r, hr, rfl⟩ := ask_one_eq_ok ha
    refine ⟨fun o ho => ?_, fun h => h.elim⟩
    obtain ⟨r, rfl, rfl⟩ : ∃ s, r = some s ∧ s.toOrder = o := by simpa using ho
    exact ⟨r, OrderTable.mem_of_findBy hr, rfl⟩
  | rebuild =>
    cases ha
    exact ⟨fun o ho => (everything o).1 ho, fun _ r hr => (everything _).2 ⟨r, hr, rfl⟩⟩
  | job j =>
    cases j with
    | incremental =>
      obtain ⟨since, m, -, -, rfl⟩ := ask_incremental_eq_ok ha
      refine ⟨fun o ho => ?_, fun h => h.elim⟩
      obtain ⟨r, hr, rfl⟩ := List.mem_map.1 ho
      exact ⟨r, (OrderTable.mem_changedSince.1 hr).1, rfl⟩
    | full | optimize =>
      cases ha
      exact ⟨fun o ho => (everything o).1 ho, fun _ r hr => (everything _).2 ⟨r, hr, rfl⟩⟩

/-- An incremental task fetches every row that was changed since the last one that succeeded
began. -/
theorem mem_of_fetch_incremental {last : Timestamp} {r : OrderRow}
    (h : (x.fetch settings now (.table t) (.job .incremental)).1 = .ok f)
    (marked : x.marks.incremental = some last) (hr : r ∈ t.rows) (changed : r.ChangedSince last) :
    r.toOrder ∈ f.orders := by
  obtain ⟨orders, after, ha, rfl⟩ := fetch_eq_ok.1 h
  obtain ⟨since, m, hw, hm, rfl⟩ := ask_incremental_eq_ok ha
  obtain rfl : since = last := window_eq_ok hw marked
  obtain ⟨m', hm', from'⟩ := changed
  obtain rfl : m = m' := by
    rw [hm] at hm'
    exact Option.some.inj hm'
  exact List.mem_map_of_mem (OrderTable.mem_changedSince.2 ⟨hr, from'⟩)

/-! ## Applying -/

/-- What a task leaves of the index when it applies what it has fetched. -/
theorem index_apply (x : Indexer) (now : Timestamp) (millis : Float) (f : Fetched) :
    (x.apply now millis f).state.index =
      match f.task, f.orders.mapM Order.sourceId with
      | .rebuild, _ =>
        (Index.snapshot (Order.documents Order.toDocument f.orders)).toOption.getD x.index
      | .job .optimize, .ok ids => x.index.retain fun id => ids.contains id
      | .job .optimize, .error _ => x.index
      | _, _ => x.index.upsertAll (Order.documents Order.toEntry f.orders) := by
  obtain ⟨task, started, orders⟩ := f
  cases task with
  | rebuild =>
    simp only [apply, applyRebuild, Order.mapAll_fst]
    cases Index.snapshot (Order.documents Order.toDocument orders) <;> rfl
  | one id =>
    cases orders with
    | nil => rfl
    | cons o orders => simp only [apply, applyBatch, Order.indexAll_fst]
  | job j =>
    cases j with
    | incremental | full => simp only [apply, applyBatch, Reply.lift, Order.indexAll_fst]
    | optimize =>
      simp only [apply, applyOptimize]
      cases orders.mapM Order.sourceId with
      | error e => rfl
      | ok ids => simp only [Index.compact_eq, Index.fst_sweep]

/-- A task that moves the mark of the incremental job moves it to its own beginning if what it has
fetched can be stored. -/
theorem mark_apply (x : Indexer) (now : Timestamp) (millis : Float) {f : Fetched}
    (h : f.task.MovesMark) (storable : Order.Storable f.orders) :
    (x.apply now millis f).state.marks.incremental = some f.started := by
  obtain ⟨task, started, orders⟩ := f
  cases task with
  | rebuild => simp only [apply, applyRebuild, Order.mapAll_fst, storable.snapshot_eq]
  | one id => exact h.elim
  | job j =>
    cases j with
    | incremental => rfl
    | full | optimize => exact h.elim

theorem mark_apply_of_not_movesMark (x : Indexer) (now : Timestamp) (millis : Float) {f : Fetched}
    (h : ¬f.task.MovesMark) :
    (x.apply now millis f).state.marks.incremental = x.marks.incremental := by
  obtain ⟨task, started, orders⟩ := f
  cases task with
  | rebuild => exact absurd trivial h
  | one id => cases orders <;> rfl
  | job j =>
    cases j with
    | incremental => exact absurd trivial h
    | full => rfl
    | optimize =>
      simp only [apply, applyOptimize]
      cases orders.mapM Order.sourceId <;> rfl

end Indexer

/-! ## Documents that are those of their rows -/

/-- Whether the index holds the document that a row has now, if it has one. -/
def Index.Reflects (i : Index) (r : OrderRow) : Prop :=
  ∀ d, r.toOrder.toDocument = .ok d → i.get? r.id = some d.prepared

theorem Index.Reflects.congr {i j : Index} {r : OrderRow} (h : i.Reflects r)
    (e : j.get? r.id = i.get? r.id) : j.Reflects r := by
  intro d hd
  rw [e]
  exact h d hd

namespace Fetched

/-- Whether a task that is applied can change or take out the document of an id. -/
def Touches (f : Fetched) (id : String) : Prop :=
  match f.task with
  | .rebuild => True
  | .job .optimize => ∀ o ∈ f.orders, o.sourceId ≠ .ok id
  | _ => ∃ o ∈ f.orders, o.sourceId = .ok id

/-- Orders that do not bear an id leave the document of that id alone. -/
theorem get?_upsertAll_documents {orders : List Order} {id : String} (i : Index)
    (h : ∀ o ∈ orders, o.sourceId ≠ .ok id) :
    (i.upsertAll (Order.documents Order.toEntry orders)).get? id = i.get? id := by
  refine Index.get?_upsertAll_of_ne fun d hd e => ?_
  obtain ⟨o, ho, hod⟩ := Order.mem_documents.1 hd
  refine h o ho ?_
  rw [← e]
  exact Order.sourceId_of_toDocument (Order.toEntry_eq_ok.1 hod).1

namespace Stems

variable {f : Fetched} {t : OrderTable} {r : OrderRow}

/-- What is fetched from a table can be stored. -/
theorem storable (stems : f.Stems t) : Order.Storable f.orders := by
  refine Order.storable_of_rows fun o ho => ?_
  obtain ⟨r, -, hr⟩ := stems.of_row o ho
  exact ⟨r, hr⟩

/-- The only order of the id of a row is that of the row. -/
theorem eq_toOrder (stems : f.Stems t) (unique : t.UniqueIds) (hr : r ∈ t.rows) {o : Order}
    (ho : o ∈ f.orders) (id : o.sourceId = .ok r.id) : o = r.toOrder := by
  obtain ⟨s, hs, rfl⟩ := stems.of_row o ho
  rw [OrderRow.sourceId_toOrder] at id
  rw [unique.eq_of_id_eq hs hr (Except.ok.inj id)]

/-- Inserting the documents of what was fetched makes the index reflect every row whose order is
among it. -/
theorem reflects_upsertAll (stems : f.Stems t) (unique : t.UniqueIds) (hr : r ∈ t.rows)
    (ho : r.toOrder ∈ f.orders) (i : Index) :
    (i.upsertAll (Order.documents Order.toDocument f.orders)).Reflects r := by
  intro d hd
  have hid : d.id = r.id := OrderRow.id_of_toDocument hd
  rw [← hid]
  refine Index.get?_upsertAll_of_mem (Order.mem_documents.2 ⟨_, ho, hd⟩) ?_
  intro e he same
  obtain ⟨o, ho', heo⟩ := Order.mem_documents.1 he
  have hsource : o.sourceId = .ok r.id := by
    rw [Order.sourceId_of_toDocument heo, same, hid]
  rw [stems.eq_toOrder unique hr ho' hsource, hd] at heo
  exact (Except.ok.inj heo).symm

/-- The ids of what was fetched can all be read. -/
theorem mapM_sourceId (stems : f.Stems t) :
    ∃ ids, f.orders.mapM Order.sourceId = .ok ids ∧
      ∀ id, id ∈ ids ↔ ∃ o ∈ f.orders, o.sourceId = .ok id := by
  refine Order.mapM_sourceId_eq_ok fun o ho => ?_
  obtain ⟨r, -, rfl⟩ := stems.of_row o ho
  exact ⟨r.id, r.sourceId_toOrder⟩

/-- A task that touches the document of a row that it could fetch did fetch the row. -/
theorem mem_of_touches (stems : f.Stems t) (unique : t.UniqueIds) (hr : r ∈ t.rows)
    (touches : f.Touches r.id) : r.toOrder ∈ f.orders ∧ f.task ≠ .job .optimize := by
  have fetched : (∃ o ∈ f.orders, o.sourceId = .ok r.id) → r.toOrder ∈ f.orders := by
    rintro ⟨o, ho, hid⟩
    rw [← stems.eq_toOrder unique hr ho hid]
    exact ho
  unfold Touches at touches
  split at touches
  · next h => exact ⟨stems.all (h ▸ trivial) r hr, by simp [h]⟩
  · next h =>
    exact absurd (OrderRow.sourceId_toOrder r) (touches _ (stems.all (h ▸ trivial) r hr))
  · next h => exact ⟨fetched touches, h⟩

/-- A task leaves alone the documents that it does not touch. -/
theorem get?_apply (stems : f.Stems t) (x : Indexer) (now : Timestamp) (millis : Float)
    {id : String} (untouched : ¬f.Touches id) :
    (x.apply now millis f).state.index.get? id = x.index.get? id := by
  obtain ⟨ids, hids, mem_ids⟩ := stems.mapM_sourceId
  rw [Indexer.index_apply, hids]
  unfold Touches at untouched
  split at untouched
  · exact absurd trivial untouched
  · next h =>
    have kept : id ∈ ids := by
      rw [mem_ids]
      push Not at untouched
      exact untouched
    simp [h, Index.get?_retain, kept]
  · next rebuild optimize =>
    push Not at untouched
    split
    · next h => exact absurd h rebuild
    · next h _ => exact absurd h optimize
    · next h _ => exact absurd h optimize
    · exact get?_upsertAll_documents x.index untouched

/-- A task that inserts what it has fetched makes the index reflect the rows among it. -/
theorem reflects_apply_of_mem (stems : f.Stems t) (unique : t.UniqueIds) (hr : r ∈ t.rows)
    (ho : r.toOrder ∈ f.orders) (inserts : f.task ≠ .job .optimize) (x : Indexer)
    (now : Timestamp) (millis : Float) : (x.apply now millis f).state.index.Reflects r := by
  rw [Indexer.index_apply, stems.storable.snapshot_eq, stems.storable.documents_eq]
  split
  · exact stems.reflects_upsertAll unique hr ho .empty
  · next h _ => exact absurd h inserts
  · next h _ => exact absurd h inserts
  · exact stems.reflects_upsertAll unique hr ho x.index

end Stems

end Fetched

end OrderRetrieval

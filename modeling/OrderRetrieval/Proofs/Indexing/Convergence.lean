import Mathlib.Algebra.GroupWithZero.Nat
import OrderRetrieval.Proofs.Indexing.Freshness

/-!
# The index converges

After a rebuild, every incremental task that succeeds leaves the index up to date, as long as tasks
take turns (`Scene.upToDate_in_turns`).

When tasks interleave this may fail, for what a task has fetched can be outdated by the time it is
applied: the last writer wins, and a row that it sets back is not fetched again once the mark of the
incremental job is past the change.  As long as every task is timely, an incremental task that
begins after the last change of the source still leaves the index up to date
(`Scene.upToDate_of_timely`).
-/

namespace OrderRetrieval

open Calendar (Moment Timestamp)

/-- Whether an event lets the task in flight go on or end. -/
def Event.Continues : Event → Prop
  | tick _ | apply _ | abandon _ => True
  | _ => False

namespace Scene

variable {settings : Settings}

/-- Nothing but a task in flight happens while there is one. -/
def TakesTurns (s : Scene) (e : Event) (_ : Scene) : Prop := s.pending = [] ∨ e.Continues

/-- Whether a rebuild has just succeeded that began while nothing was in flight. -/
def Rebuilt (settings : Settings) (s : Scene) : Prop :=
  ∃ (before : Scene) (f : Fetched) (later : Moment), before.pending = [] ∧ f.task = .rebuild ∧
    Run settings (fun _ _ _ => True) before [.fetch f, .tick later, .apply f] s

/-- What a rebuild leaves behind: nothing in flight, and the indexer as it is after every row of the
table was applied. -/
theorem Rebuilt.spec {s : Scene} (h : s.Rebuilt settings) :
    s.pending = [] ∧ ∃ (f : Fetched) (x : Indexer) (millis : Float), f.task = .rebuild ∧
      f.Stems s.table ∧ f.started.HasCome s.now ∧
      s.indexer = (x.apply (.ofUtc s.now) millis f).state := by
  obtain ⟨before, f, later, idle, rebuild, run⟩ := h
  obtain ⟨_, -, fetching, run⟩ := run.uncons
  obtain ⟨_, -, ticking, run⟩ := run.uncons
  obtain ⟨_, -, applying, run⟩ := run.uncons
  cases run
  cases fetching with
  | fetch _ answer =>
    cases ticking with
    | tick le =>
      cases applying with
      | @apply _ front back millis pending =>
        have alone : front = [] ∧ back = [] := nil_of_alone (by simp [idle]) pending
        refine ⟨List.append_eq_nil_iff.2 alone, f, _, millis, rebuild,
          Indexer.stems_of_fetch answer, ?_, rfl⟩
        rw [Indexer.started_of_fetch answer]
        exact (Timestamp.hasCome_ofUtc before.now).mono le

/-- After a rebuild the invariant holds. -/
theorem Rebuilt.sound {s : Scene} (h : s.Rebuilt settings) (unique : s.table.UniqueIds) :
    s.Sound := by
  obtain ⟨idle, f, x, millis, rebuild, stems, come, applied⟩ := h.spec
  have moves : f.task.MovesMark := Task.movesMark_iff.2 (.inr rebuild)
  refine ⟨unique, ?_, ⟨f.started, ?_, come⟩, ?_, fun r hr => .inl ?_, ?_⟩
  · unfold Locked
    rw [idle]
    exact List.Pairwise.nil
  · rw [applied]
    exact Indexer.mark_apply x _ _ moves stems.storable
  · rw [idle]
    exact List.forall_mem_nil _
  · rw [applied]
    refine stems.reflects_apply_of_mem unique hr (stems.all ?_ r hr) (by simp [rebuild]) x _ _
    rw [rebuild]
    trivial
  · rw [idle]
    exact List.forall_mem_nil _

end Scene

/-! ## An order that is shipped

The concrete scenes below are about an order that is placed at noon, is indexed by a rebuild and is
shipped a minute later. -/

namespace Shipment

/-- An hour has minutes, so numerals stand for some of them. -/
instance neZero_minutes : NeZero 60 := ⟨by decide⟩

/-- So many minutes past noon. -/
def clock (minutes : Fin 60) : Moment :=
  ⟨63852840000000000 + minutes * 60000000, by
    unfold Calendar.span Calendar.dayCount Calendar.day Calendar.second
    omega⟩

theorem micros_clock (minutes : Fin 60) :
    (clock minutes).micros = 63852840000000000 + minutes * 60000000 := rfl

theorem clock_le {minutes later : Fin 60} (h : minutes ≤ later) :
    (clock minutes).micros ≤ (clock later).micros := by
  rw [micros_clock, micros_clock]
  omega

/-- A row that was last changed so many minutes past noon. -/
def row (id status : String) (minutes : Fin 60) : OrderRow where
  id
  orderNumber := id
  status := some status
  paymentStatus := none
  fulfillmentStatus := none
  totalAmount := none
  shippingAddress := .null
  billingAddress := .null
  notes := none
  createdAt := none
  updatedAt := some (clock minutes)
  shipping_writable := Datum.isWritable_null
  billing_writable := Datum.isWritable_null

theorem toDocument_row (status : String) (minutes : Fin 60) :
    ∃ d, (row "A" status minutes).toOrder.toDocument = .ok d ∧ d.prepared.status = some status := by
  refine ⟨_, rfl, ?_⟩
  rfl

/-- The row of the order before it is shipped. -/
def placed : OrderRow := row "A" "PENDING" 0

/-- The row of the order after it was shipped. -/
def shipped : OrderRow := row "A" "SHIPPED" 1

/-- What a task fetches that fetches every order. -/
def everything (task : Task) (minutes : Fin 60) (t : OrderTable) : Fetched :=
  ⟨task, .ofUtc (clock minutes), t.all.map OrderRow.toOrder⟩

theorem mem_everything {task : Task} {minutes : Fin 60} (r : OrderRow) :
    r.toOrder ∈ (everything task minutes ⟨[r]⟩).orders :=
  List.mem_map_of_mem (OrderTable.mem_all.2 (List.mem_singleton_self r))

/-- What an incremental task fetches. -/
def changes (since minutes : Fin 60) (t : OrderTable) : Fetched :=
  ⟨.job .incremental, .ofUtc (clock minutes), (t.changedSince (clock since)).map OrderRow.toOrder⟩

/-- Noon, before anything was indexed. -/
def noon (t : OrderTable) : Scene := ⟨.start, t, clock 0, []⟩

/-- Noon, after a rebuild. -/
def opened : Scene :=
  { noon ⟨[placed]⟩ with
    indexer := ((Indexer.start.prepare .rebuild).apply (.ofUtc (clock 0)) 0
      (everything .rebuild 0 ⟨[placed]⟩)).state }

theorem uniqueIds (r : OrderRow) : (⟨[r]⟩ : OrderTable).UniqueIds := List.nodup_singleton r.id

theorem rebuilt_opened : opened.Rebuilt .default := by
  refine ⟨noon ⟨[placed]⟩, everything .rebuild 0 ⟨[placed]⟩, clock 0, rfl, rfl, ?_⟩
  refine .cons trivial (.fetch (List.forall_mem_nil _) ?_) ?_
  · exact Indexer.fetch_takesAll _ _ _ _ trivial
  refine .cons trivial (.tick (Nat.le_refl _)) ?_
  exact .cons trivial (@Scene.Step.apply _ _ _ [] [] 0 rfl) .nil

theorem put_shipped : opened.table.put shipped = .ok ⟨[shipped]⟩ := rfl

/-- The window of an incremental task. -/
theorem window (x : Indexer) (minutes : Fin 60) :
    x.window .default (.ofUtc (clock minutes)) =
      .ok (x.marks.incremental.getD (.ofUtc ((clock minutes).back 300000000))) := by
  have interval : Settings.default.incrementalInterval.toSpan = .ok ((300000000 : Nat) : Int) := by
    unfold Settings.default
    rfl
  refine Indexer.window_of_interval x interval ?_
  show 300000000 ≤ (clock minutes).micros
  rw [micros_clock]
  omega

/-- An incremental task fetches what was changed since the mark. -/
theorem fetch_changes {x : Indexer} {since : Fin 60} (minutes : Fin 60) (t : OrderTable)
    (marked : x.marks.incremental = some (.ofUtc (clock since))) :
    (x.fetch .default (.ofUtc (clock minutes)) (.table t) (.job .incremental)).1 =
      .ok (changes since minutes t) := by
  refine Indexer.fetch_incremental ?_ (Timestamp.utc?_ofUtc (clock since))
  rw [window, marked]
  rfl

theorem stems_everything {task : Task} (minutes : Fin 60) (t : OrderTable) (h : task.TakesAll) :
    (everything task minutes t).Stems t :=
  Indexer.stems_of_fetch (Indexer.fetch_takesAll .start .default _ t h)

/-- The rebuild has moved the mark to noon. -/
theorem marked_opened : opened.indexer.marks.incremental = some (.ofUtc (clock 0)) :=
  have stems : (everything .rebuild 0 ⟨[placed]⟩).Stems ⟨[placed]⟩ := stems_everything 0 _ trivial
  Indexer.mark_apply _ _ _ trivial stems.storable

theorem stems_changes (since minutes : Fin 60) (t : OrderTable) :
    (changes since minutes t).Stems t := by
  refine ⟨fun o ho => ?_, False.elim⟩
  obtain ⟨r, hr, rfl⟩ := List.mem_map.1 ho
  exact ⟨r, (OrderTable.mem_changedSince.1 hr).1, rfl⟩

theorem mem_changes {since minutes since' : Fin 60} {id status : String} (le : since ≤ since') :
    (row id status since').toOrder ∈ (changes since minutes ⟨[row id status since']⟩).orders := by
  refine List.mem_map_of_mem (OrderTable.mem_changedSince.2 ⟨List.mem_singleton_self _, ?_⟩)
  exact ⟨clock since', rfl, clock_le le⟩

/-- An incremental task leaves alone an order that was last changed before its window. -/
theorem not_touches_changes {since minutes since' : Fin 60} {id status id' : String}
    (lt : since' < since) : ¬(changes since minutes ⟨[row id status since']⟩).Touches id' := by
  rintro ⟨o, ho, -⟩
  obtain ⟨r, hr, -⟩ := List.mem_map.1 ho
  obtain ⟨mem, c, hc, le⟩ := OrderTable.mem_changedSince.1 hr
  obtain rfl : r = row id status since' := List.mem_singleton.1 mem
  obtain rfl : clock since' = c := Option.some.inj hc
  rw [micros_clock, micros_clock] at le
  omega

/-- An index that reflects the order as it was placed does not reflect it as it was shipped. -/
theorem not_reflects_shipped {i : Index} (h : i.Reflects placed) : ¬i.Reflects shipped := by
  intro h'
  obtain ⟨d, hd, pendingStatus⟩ := toDocument_row "PENDING" 0
  obtain ⟨e, he, shippedStatus⟩ := toDocument_row "SHIPPED" 1
  have same : some d.prepared = some e.prepared := (h d hd).symm.trans (h' e he)
  rw [Option.some.inj same, shippedStatus] at pendingStatus
  revert pendingStatus
  decide

end Shipment

namespace Scene

open Shipment

variable {settings : Settings}

/-! ## Tasks that take turns -/

/-- While tasks take turns the task in flight knows every row. -/
theorem TakesTurns.knows {s t : Scene} {e : Event} (ok : s.TakesTurns e t) (sound : s.Sound)
    (step : Step settings s e t) (knows : ∀ f ∈ s.pending, f.Knows s.table) :
    ∀ f ∈ t.pending, f.Knows t.table := by
  intro f hf
  by_cases old : f ∈ s.pending
  · refine (knows f old).step (fun r he => ?_) step
    rcases ok with idle | h
    · rw [idle] at old
      cases old
    · rw [he] at h
      exact h
  · cases step with
    | fetch _ answer =>
      rcases List.mem_cons.1 hf with rfl | hf
      · refine Fetched.knows_of_fetch sound.uniqueIds ?_ answer
        rw [Indexer.marks_prepare]
        exact sound.marked
      · exact absurd hf old
    | apply pending | abandon pending => exact absurd (mem_of_rest pending hf) old
    | _ => exact absurd hf old

/-- A task that takes turns is timely. -/
theorem timely_of_all_know {s t : Scene} {e : Event} (step : Step settings s e t)
    (knows : ∀ f ∈ s.pending, f.Knows s.table) : s.Timely e t := by
  cases step with
  | @apply f before after millis pending =>
    have mem : f ∈ s.pending := by simp [pending]
    exact timely_of_knows (knows f mem)
  | _ => trivial

/-- **No change is lost while tasks take turns.**  After a rebuild, whatever is written or dropped,
whichever tasks run, fail or are given up one after the other, right after an incremental task has
succeeded the index holds the document of every row as it is then. -/
theorem upToDate_in_turns {s t : Scene} {es : List Event} {f : Fetched}
    (rebuilt : s.Rebuilt settings) (unique : s.table.UniqueIds)
    (run : Run settings TakesTurns s (es ++ [.apply f]) t)
    (incremental : f.task = .job .incremental) : t.UpToDate := by
  obtain ⟨u, run, -, step⟩ := run.of_concat
  have keep : ∀ {s t : Scene} {e : Event}, (s.Sound ∧ ∀ f ∈ s.pending, f.Knows s.table) →
      s.TakesTurns e t → Step settings s e t → t.Sound ∧ ∀ f ∈ t.pending, f.Knows t.table := by
    rintro s t e ⟨sound, knows⟩ ok step
    exact ⟨sound.step (timely_of_all_know step knows) step, ok.knows sound step knows⟩
  have first : ∀ f ∈ s.pending, f.Knows s.table := by simp [rebuilt.spec.1]
  obtain ⟨sound, knows⟩ := run.keeps keep ⟨rebuilt.sound unique, first⟩
  exact sound.upToDate step incremental (knows f step.mem_of_apply)

/-- The order is shipped, and an incremental task runs. -/
theorem upToDate_after_shipment :
    ∃ t, Run .default TakesTurns opened
      ([.tick (clock 1), .write shipped, .tick (clock 2), .fetch (changes 0 2 ⟨[shipped]⟩)] ++
        [.apply (changes 0 2 ⟨[shipped]⟩)]) t ∧ t.UpToDate := by
  have run : Run .default TakesTurns opened
      ([.tick (clock 1), .write shipped, .tick (clock 2), .fetch (changes 0 2 ⟨[shipped]⟩)] ++
        [.apply (changes 0 2 ⟨[shipped]⟩)])
      ⟨(opened.indexer.apply (.ofUtc (clock 2)) 0 (changes 0 2 ⟨[shipped]⟩)).state, ⟨[shipped]⟩,
        clock 2, []⟩ := by
    refine .cons (.inl rfl) (.tick (clock_le (by decide))) ?_
    refine .cons (.inl rfl) (.write put_shipped rfl) ?_
    refine .cons (.inl rfl) (.tick (clock_le (by decide))) ?_
    refine .cons (.inl rfl) (.fetch (List.forall_mem_nil _) (fetch_changes 2 _ marked_opened)) ?_
    exact .cons (.inr trivial) (@Step.apply _ _ _ [] [] 0 rfl) .nil
  exact ⟨_, run, upToDate_in_turns rebuilt_opened (uniqueIds _) run rfl⟩

/-! ## Tasks that interleave -/

/-- What a task in flight knows stays every row while nothing is written. -/
theorem Run.knows {allowed : Scene → Event → Scene → Prop} {s t : Scene} {es : List Event}
    {f : Fetched} (run : Run settings allowed s es t) (calm : ∀ e ∈ es, ¬e.Edits)
    (knows : f.Knows s.table) : f.Knows t.table := by
  have resting : Run settings (fun _ e _ => ¬e.Edits) s es t := run.imp fun e he _ => calm e he
  have keep : ∀ {s t : Scene} {e : Event}, f.Knows s.table → ¬e.Edits → Step settings s e t →
      f.Knows t.table := by
    intro s t e knows rests step
    refine knows.step (fun r he => ?_) step
    rw [he] at rests
    exact rests trivial
  exact resting.keeps keep knows

/-- **Tasks that interleave converge as long as each is timely.**  After a rebuild, however tasks
and changes of the source interleave, right after an incremental task has succeeded that began after
the last change of the source the index holds the document of every row. -/
theorem upToDate_of_timely {s t : Scene} {es rest : List Event} {f : Fetched}
    (rebuilt : s.Rebuilt settings) (unique : s.table.UniqueIds)
    (run : Run settings Timely s (es ++ .fetch f :: (rest ++ [.apply f])) t)
    (incremental : f.task = .job .incremental) (calm : ∀ e ∈ rest, ¬e.Edits) : t.UpToDate := by
  obtain ⟨u, run, last⟩ := run.of_append
  obtain ⟨v, ok, fetching, last⟩ := last.uncons
  obtain ⟨w, waiting, -, applying⟩ := last.of_concat
  have keep : ∀ {s t : Scene} {e : Event}, s.Sound → s.Timely e t → Step settings s e t →
      t.Sound := fun sound ok step => sound.step ok step
  have sound : u.Sound := run.keeps keep (rebuilt.sound unique)
  have fetched : f.Knows v.table := by
    cases fetching with
    | fetch _ answer =>
      refine Fetched.knows_of_fetch sound.uniqueIds ?_ answer
      rw [Indexer.marks_prepare]
      exact sound.marked
  have waited : w.Sound := waiting.keeps keep (sound.step ok fetching)
  exact waited.upToDate applying incremental (waiting.knows calm fetched)

/-- The order is shipped, and every order is updated while an incremental task runs. -/
theorem upToDate_after_overlap :
    ∃ t, Run .default Timely opened
      ([.tick (clock 1), .write shipped, .fetch (everything (.job .full) 1 ⟨[shipped]⟩),
        .tick (clock 2)] ++ .fetch (changes 0 2 ⟨[shipped]⟩) ::
          ([.apply (everything (.job .full) 1 ⟨[shipped]⟩)] ++ [.apply (changes 0 2 ⟨[shipped]⟩)]))
      t ∧ t.UpToDate := by
  have timely {s t : Scene} {f : Fetched} (table : t.table = ⟨[shipped]⟩)
      (mem : shipped.toOrder ∈ f.orders) : s.Timely (.apply f) t := by
    intro r hr _
    rw [table] at hr
    obtain rfl : r = shipped := List.mem_singleton.1 hr
    exact .inl mem
  have run : Run .default Timely opened
      ([.tick (clock 1), .write shipped, .fetch (everything (.job .full) 1 ⟨[shipped]⟩),
        .tick (clock 2)] ++ .fetch (changes 0 2 ⟨[shipped]⟩) ::
          ([.apply (everything (.job .full) 1 ⟨[shipped]⟩)] ++ [.apply (changes 0 2 ⟨[shipped]⟩)]))
      ⟨((opened.indexer.apply (.ofUtc (clock 2)) 0
        (everything (.job .full) 1 ⟨[shipped]⟩)).state.apply (.ofUtc (clock 2)) 0
          (changes 0 2 ⟨[shipped]⟩)).state, ⟨[shipped]⟩, clock 2, []⟩ := by
    refine .cons trivial (.tick (clock_le (by decide))) ?_
    refine .cons trivial (.write put_shipped rfl) ?_
    refine .cons trivial (.fetch (List.forall_mem_nil _) ?_) ?_
    · exact Indexer.fetch_takesAll _ _ _ _ trivial
    refine .cons trivial (.tick (clock_le (by decide))) ?_
    refine .cons trivial (.fetch ?_ (fetch_changes 2 _ marked_opened)) ?_
    · intro g hg same
      obtain rfl := List.mem_singleton.1 hg
      cases same
    refine .cons ?_ (@Step.apply _ _ _ [changes 0 2 ⟨[shipped]⟩] [] 0 rfl) ?_
    · exact timely rfl (mem_everything shipped)
    refine .cons ?_ (@Step.apply _ _ _ [] [] 0 rfl) .nil
    exact timely rfl (mem_changes (by decide))
  refine ⟨_, run, upToDate_of_timely rebuilt_opened (uniqueIds _) run rfl ?_⟩
  intro e he edits
  obtain rfl := List.mem_singleton.1 he
  exact edits

/-- Whether every course of events that ends with an incremental task that began after the last
change of the source leaves the index up to date once nothing is in flight. -/
def Converges (settings : Settings) (s : Scene) : Prop :=
  ∀ (es rest : List Event) (f : Fetched) (t : Scene),
    Run settings (fun _ _ _ => True) s (es ++ .fetch f :: (rest ++ [.apply f])) t →
      f.task = .job .incremental → (∀ e ∈ rest, ¬e.Edits) → t.pending = [] → t.UpToDate

/-- Before the first rebuild an order is not fetched that was placed longer ago than one interval.
-/
theorem not_converges_unindexed : ¬(noon ⟨[]⟩).Converges .default := by
  intro converges
  have back : (clock 10).back 300000000 = clock 5 := by decide
  have run : Run .default (fun _ _ _ => True) (noon ⟨[]⟩)
      ([.write placed, .tick (clock 10)] ++ .fetch (changes 5 10 ⟨[placed]⟩) ::
        ([] ++ [.apply (changes 5 10 ⟨[placed]⟩)]))
      ⟨(Indexer.start.apply (.ofUtc (clock 10)) 0 (changes 5 10 ⟨[placed]⟩)).state, ⟨[placed]⟩,
        clock 10, []⟩ := by
    refine .cons trivial (.write (show (noon ⟨[]⟩).table.put placed = _ from rfl) rfl) ?_
    refine .cons trivial (.tick (clock_le (by decide))) ?_
    refine .cons trivial (.fetch (List.forall_mem_nil _) ?_) ?_
    · refine Indexer.fetch_incremental ?_ (Timestamp.utc?_ofUtc (clock 5))
      rw [window, back]
      rfl
    exact .cons trivial (@Step.apply _ _ _ [] [] 0 rfl) .nil
  have upToDate := converges _ _ _ _ run rfl (List.forall_mem_nil _) rfl
  obtain ⟨d, hd, -⟩ := toDocument_row "PENDING" 0
  have found := upToDate placed (List.mem_singleton_self _) d hd
  have untouched : ¬(changes 5 10 ⟨[placed]⟩).Touches "A" := not_touches_changes (by decide)
  have kept := (stems_changes 5 10 ⟨[placed]⟩).get?_apply Indexer.start (.ofUtc (clock 10)) 0
    untouched
  cases kept.symm.trans found

/-- An order is lost that is set back by an update of every order, which has fetched it before it
was shipped, after an incremental task has dealt with the shipment. -/
theorem not_converges_opened : ¬opened.Converges .default := by
  intro converges
  have run : Run .default (fun _ _ _ => True) opened
      ([.fetch (everything (.job .full) 0 ⟨[placed]⟩), .tick (clock 1), .write shipped,
        .tick (clock 2), .fetch (changes 0 2 ⟨[shipped]⟩), .apply (changes 0 2 ⟨[shipped]⟩),
        .apply (everything (.job .full) 0 ⟨[placed]⟩), .tick (clock 3)] ++
          .fetch (changes 2 3 ⟨[shipped]⟩) :: ([] ++ [.apply (changes 2 3 ⟨[shipped]⟩)]))
      ⟨(((opened.indexer.apply (.ofUtc (clock 2)) 0 (changes 0 2 ⟨[shipped]⟩)).state.apply
        (.ofUtc (clock 2)) 0 (everything (.job .full) 0 ⟨[placed]⟩)).state.apply
          (.ofUtc (clock 3)) 0 (changes 2 3 ⟨[shipped]⟩)).state, ⟨[shipped]⟩, clock 3, []⟩ := by
    refine .cons trivial (.fetch (List.forall_mem_nil _) ?_) ?_
    · exact Indexer.fetch_takesAll _ _ _ _ trivial
    refine .cons trivial (.tick (clock_le (by decide))) ?_
    refine .cons trivial (.write put_shipped rfl) ?_
    refine .cons trivial (.tick (clock_le (by decide))) ?_
    refine .cons trivial (.fetch ?_ (fetch_changes 2 _ marked_opened)) ?_
    · intro g hg same
      obtain rfl := List.mem_singleton.1 hg
      cases same
    refine .cons trivial (@Step.apply _ _ _ [] [everything (.job .full) 0 ⟨[placed]⟩] 0 rfl) ?_
    refine .cons trivial (@Step.apply _ _ _ [] [] 0 rfl) ?_
    refine .cons trivial (.tick (clock_le (by decide))) ?_
    refine .cons trivial (.fetch (List.forall_mem_nil _) (fetch_changes 3 _ rfl)) ?_
    exact .cons trivial (@Step.apply _ _ _ [] [] 0 rfl) .nil
  have upToDate := converges _ _ _ _ run rfl (List.forall_mem_nil _) rfl
  refine not_reflects_shipped ?_ (upToDate shipped (List.mem_singleton_self _))
  -- The last task has nothing to do, so the index reflects what the late one had fetched.
  refine Index.Reflects.congr ?_
    ((stems_changes 2 3 ⟨[shipped]⟩).get?_apply _ _ _ (not_touches_changes (by decide)))
  have early : (everything (.job .full) 0 ⟨[placed]⟩).Stems ⟨[placed]⟩ :=
    stems_everything 0 _ trivial
  exact early.reflects_apply_of_mem (uniqueIds placed) (List.mem_singleton_self _)
    (mem_everything placed) (by simp [everything]) _ _ _

/-- Not every course of events converges, neither before the first rebuild nor after it. -/
theorem not_converges :
    ¬(noon ⟨[]⟩).Converges .default ∧
      opened.Rebuilt .default ∧ opened.table.UniqueIds ∧ ¬opened.Converges .default :=
  ⟨not_converges_unindexed, rebuilt_opened, uniqueIds placed, not_converges_opened⟩

end Scene

end OrderRetrieval

import OrderRetrieval.Proofs.Indexing.Convergence

/-!
# What the optimize task removes

The optimize task compares the index, as it is when the task is applied, with the orders that were
in the source when it fetched.  It keeps just the documents of these orders
(`Indexer.index_apply_optimize`), whatever happens in between.  So it may remove the document of an
order that is in the source, but only one that came into the source while the task was in flight
(`Scene.removed_by_optimize`).
-/

namespace OrderRetrieval

open Calendar (Moment Timestamp)

/-- What the optimize task leaves of the index. -/
theorem Indexer.index_apply_optimize {f : Fetched} {t : OrderTable} (stems : f.Stems t)
    (optimize : f.task = .job .optimize) (x : Indexer) (now : Timestamp) (millis : Float) :
    (x.apply now millis f).state.index =
      x.index.retain fun id => t.rows.any fun r => r.id == id := by
  obtain ⟨ids, hids, mem_ids⟩ := stems.mapM_sourceId
  rw [Indexer.index_apply, optimize, hids]
  refine congrArg x.index.retain ?_
  funext id
  rw [Bool.eq_iff_iff, List.contains_iff_mem, mem_ids, List.any_eq_true]
  constructor
  · rintro ⟨o, ho, hid⟩
    obtain ⟨r, hr, rfl⟩ := stems.of_row o ho
    rw [OrderRow.sourceId_toOrder] at hid
    exact ⟨r, hr, beq_iff_eq.2 (Except.ok.inj hid)⟩
  · rintro ⟨r, hr, hid⟩
    refine ⟨r.toOrder, stems.all ?_ r hr, ?_⟩
    · rw [optimize]
      trivial
    · rw [OrderRow.sourceId_toOrder, beq_iff_eq.1 hid]

/-! ## An order that comes late

At noon the optimize task fetches.  A minute later another order comes in and is indexed. -/

namespace Shipment

/-- The row of the other order. -/
def latecomer : OrderRow := row "B" "PENDING" 1

/-- What the update of the other order fetches. -/
def update : Fetched := ⟨.one (.str "B"), .ofUtc (clock 1), [latecomer.toOrder]⟩

/-- What the optimize task has fetched. -/
def orphans : Fetched := everything (.job .optimize) 0 ⟨[placed]⟩

/-- The scene in which the other order has been indexed. -/
def joined : Scene where
  indexer := (opened.indexer.apply (.ofUtc (clock 1)) 0 update).state
  table := ⟨[placed, latecomer]⟩
  now := clock 1
  pending := [orphans]

/-- The scene after the optimize task was applied. -/
def optimized : Scene :=
  { joined with
    indexer := (joined.indexer.apply (.ofUtc (clock 1)) 0 orphans).state
    pending := [] }

/-- What has happened while the optimize task was in flight. -/
def meanwhile : List Event := [.tick (clock 1), .write latecomer, .fetch update, .apply update]

theorem run_joined :
    Scene.Run .default (fun _ _ _ => True) opened (.fetch orphans :: meanwhile) joined := by
  have put : opened.table.put latecomer = .ok ⟨[placed, latecomer]⟩ := rfl
  refine .cons trivial (.fetch (List.forall_mem_nil _) ?_) ?_
  · exact Indexer.fetch_takesAll _ _ _ _ trivial
  refine .cons trivial (.tick (clock_le (by decide))) ?_
  refine .cons trivial (.write put rfl) ?_
  refine .cons trivial (.fetch (fun _ _ _ => rfl) rfl) ?_
  exact .cons trivial (@Scene.Step.apply _ _ _ [] [orphans] 0 rfl) .nil

theorem step_optimized : Scene.Step .default joined (.apply orphans) optimized :=
  @Scene.Step.apply _ _ _ [] [] 0 rfl

theorem latecomer_indexed : latecomer.id ∈ joined.indexer.index.ids := by
  have unique : (⟨[placed, latecomer]⟩ : OrderTable).UniqueIds := by
    unfold OrderTable.UniqueIds
    decide
  have mem : latecomer ∈ [placed, latecomer] := List.mem_cons_of_mem _ (List.mem_singleton_self _)
  have stems : update.Stems ⟨[placed, latecomer]⟩ := by
    refine ⟨fun o ho => ⟨latecomer, mem, ?_⟩, False.elim⟩
    exact (List.mem_singleton.1 ho).symm
  obtain ⟨d, hd⟩ : ∃ d, latecomer.toOrder.toDocument = .ok d := ⟨_, rfl⟩
  have found := stems.reflects_apply_of_mem unique mem (List.mem_singleton_self _)
    (by simp [update]) opened.indexer (.ofUtc (clock 1)) 0 d hd
  rw [← Index.contains_iff]
  unfold Index.contains
  exact Option.isSome_iff_exists.2 ⟨_, found⟩

end Shipment

namespace Scene

open Shipment

/-- Only what is written comes into the source. -/
theorem Run.rows {settings : Settings} {allowed : Scene → Event → Scene → Prop} {s t : Scene}
    {es : List Event} (run : Run settings allowed s es t) {r : OrderRow} (hr : r ∈ t.table.rows) :
    r ∈ s.table.rows ∨ .write r ∈ es := by
  induction run with
  | nil => exact .inl hr
  | cons _ step _ ih =>
    rcases ih hr with h | h
    · rcases step.rows h with h | rfl
      · exact .inl h
      · exact .inr List.mem_cons_self
    · exact .inr (List.mem_cons_of_mem _ h)

/-- **The optimize task removes just the documents that were without an order when it fetched.**  If
such a document belongs to an order that is in the source when it is removed, the order was written
while the task was in flight. -/
theorem removed_by_optimize {settings : Settings} {allowed : Scene → Event → Scene → Prop}
    {s u t : Scene} {es : List Event} {f : Fetched}
    (run : Run settings allowed s (.fetch f :: es) u) (step : Step settings u (.apply f) t)
    (optimize : f.task = .job .optimize) {id : String} (indexed : id ∈ u.indexer.index.ids) :
    (id ∉ t.indexer.index.ids ↔ ∀ r ∈ s.table.rows, r.id ≠ id) ∧
      (id ∉ t.indexer.index.ids → ∀ r ∈ u.table.rows, r.id = id → .write r ∈ es) := by
  obtain ⟨v, -, fetching, rest⟩ := run.uncons
  have stems : f.Stems s.table := by
    cases fetching with
    | fetch _ answer => exact Indexer.stems_of_fetch answer
  have table : v.table = s.table := by
    cases fetching
    rfl
  have removed : id ∉ t.indexer.index.ids ↔ ∀ r ∈ s.table.rows, r.id ≠ id := by
    cases step with
    | apply _ =>
      rw [Indexer.index_apply_optimize stems optimize, Index.mem_ids_retain]
      simp [indexed]
  refine ⟨removed, fun gone r hr hid => ?_⟩
  refine (rest.rows hr).resolve_left fun old => ?_
  rw [table] at old
  exact removed.1 gone r old hid

/-- The other order is removed, and it was written while the optimize task was in flight. -/
theorem latecomer_written :
    (latecomer.id ∉ optimized.indexer.index.ids ↔ ∀ r ∈ opened.table.rows, r.id ≠ latecomer.id) ∧
      (latecomer.id ∉ optimized.indexer.index.ids →
        ∀ r ∈ joined.table.rows, r.id = latecomer.id → .write r ∈ meanwhile) :=
  removed_by_optimize run_joined step_optimized rfl latecomer_indexed

/-- The optimize task removes the document of an order that is in the source at that moment. -/
theorem removes_latecomer :
    Run .default (fun _ _ _ => True) opened (.fetch orphans :: meanwhile) joined ∧
      Step .default joined (.apply orphans) optimized ∧ latecomer ∈ joined.table.rows ∧
        latecomer.id ∈ joined.indexer.index.ids ∧ latecomer.id ∉ optimized.indexer.index.ids := by
  refine ⟨run_joined, step_optimized, List.mem_cons_of_mem _ (List.mem_singleton_self _),
    latecomer_indexed, ?_⟩
  have stems : orphans.Stems ⟨[placed]⟩ := stems_everything 0 _ trivial
  show latecomer.id ∉ (joined.indexer.apply (.ofUtc (clock 1)) 0 orphans).state.index.ids
  rw [Indexer.index_apply_optimize stems rfl, Index.mem_ids_retain]
  rintro ⟨-, kept⟩
  revert kept
  decide

end Scene

end OrderRetrieval

import Mathlib.Data.List.Induction
import OrderRetrieval.Proofs.Service.Turns

/-!
# Overhauling the index

An index is overhauled by a full update and an optimization after it: the update inserts the
documents of all orders beside whatever is there, and the optimization takes out what belongs to no
order.  If every order becomes a document and all of these can be stored, the index then holds the
same as after a rebuild, which is said by the orders alone: under each id that some order bears, the
document of the last such order (`Index.HoldsLast`).  If a document cannot be stored, the overhaul
leaves just that out, but the rebuild fails (`Service.overhaul_eq_rebuild`).
-/

namespace OrderRetrieval

open Calendar (Timestamp)

/-- Whether an order is the last one of its id in a list of orders. -/
def Order.IsLast (orders : List Order) (id : String) (o : Order) : Prop :=
  ∃ before after, orders = before ++ o :: after ∧ o.sourceId = .ok id ∧
    ∀ p ∈ after, p.sourceId ≠ .ok id

/-- Whether an index holds under each id the document of the last order of that id, and nothing
under any other id. -/
def Index.HoldsLast (i : Index) (orders : List Order) : Prop :=
  ∀ id d, i.get? id = some d ↔
    ∃ o w, Order.IsLast orders id o ∧ o.toDocument = .ok w ∧ w.prepared = d

namespace Order

variable {orders : List Order} {o p : Order} {id : String}

theorem not_isLast_nil : ¬IsLast [] id o := by
  rintro ⟨before, after, eq, -⟩
  simp at eq

/-- With one more order, that order is the last one of its id. -/
theorem isLast_concat :
    IsLast (orders ++ [p]) id o ↔
      (p.sourceId = .ok id ∧ o = p) ∨ (p.sourceId ≠ .ok id ∧ IsLast orders id o) := by
  constructor
  · rintro ⟨before, after, eq, hid, none⟩
    rcases List.eq_nil_or_concat after with rfl | ⟨after, q, rfl⟩
    · obtain ⟨-, eq⟩ := List.append_inj' eq rfl
      cases eq
      exact .inl ⟨hid, rfl⟩
    · have eq : orders ++ [p] = (before ++ o :: after) ++ [q] := by simpa using eq
      obtain ⟨rfl, last⟩ := List.append_inj' eq rfl
      cases last
      refine .inr ⟨none p (by simp), before, after, rfl, hid, ?_⟩
      intro q hq
      exact none q (by simp [hq])
  · rintro (⟨hid, rfl⟩ | ⟨hp, before, after, rfl, hid, none⟩)
    · exact ⟨orders, [], rfl, hid, List.forall_mem_nil _⟩
    · refine ⟨before, after ++ [p], by simp, hid, ?_⟩
      rw [List.forall_mem_append, List.forall_mem_singleton]
      exact ⟨none, hp⟩

/-- Some order is the last one of an id if any bears it. -/
theorem exists_isLast_iff : (∃ o, IsLast orders id o) ↔ ∃ o ∈ orders, o.sourceId = .ok id := by
  induction orders using List.reverseRecOn with
  | nil => exact iff_of_false (fun ⟨_, h⟩ => not_isLast_nil h) (by simp)
  | append_singleton orders p ih =>
    simp only [isLast_concat, List.mem_append, List.mem_singleton, or_and_right, exists_or,
      exists_eq_left, exists_and_left, ih]
    by_cases hp : p.sourceId = .ok id
    · simp [hp]
    · simp [hp]

/-- Where every order becomes a document, the ids of the orders are those of the documents. -/
theorem exists_sourceId_iff (accepted : ∀ o ∈ orders, ∃ d, o.toDocument = .ok d) :
    (∃ o ∈ orders, o.sourceId = .ok id) ↔ ∃ d ∈ documents toDocument orders, d.id = id := by
  constructor
  · rintro ⟨o, ho, hid⟩
    obtain ⟨d, hd⟩ := accepted o ho
    rw [sourceId_of_toDocument hd, Except.ok.injEq] at hid
    exact ⟨d, mem_documents.2 ⟨o, ho, hd⟩, hid⟩
  · rintro ⟨d, hd, rfl⟩
    obtain ⟨o, ho, hod⟩ := mem_documents.1 hd
    exact ⟨o, ho, sourceId_of_toDocument hod⟩

end Order

namespace Index

variable {orders : List Order}

/-- The index that is built from the documents of orders holds those of the last ones. -/
theorem holdsLast_ofDocuments (accepted : ∀ o ∈ orders, ∃ d, o.toDocument = .ok d) :
    (ofDocuments (Order.documents Order.toDocument orders)).HoldsLast orders := by
  induction orders using List.reverseRecOn with
  | nil =>
    intro id d
    refine iff_of_false nofun ?_
    rintro ⟨o, w, last, -⟩
    exact Order.not_isLast_nil last
  | append_singleton orders p ih =>
    rw [List.forall_mem_append, List.forall_mem_singleton] at accepted
    obtain ⟨accepted, w, hw⟩ := accepted
    have built : ofDocuments (Order.documents Order.toDocument (orders ++ [p])) =
        (ofDocuments (Order.documents Order.toDocument orders)).upsert w := by
      rw [Order.documents_append, Order.documents_singleton hw]
      exact List.foldl_concat ..
    intro id d
    rw [built, get?_upsert]
    simp only [Order.isLast_concat, Order.sourceId_of_toDocument hw, Except.ok.injEq]
    split
    · next hid => simp [hid, hw]
    · next hid => simpa [hid] using ih accepted id d

/-- What is held under an id of some order is that of an order, and every such id is held. -/
theorem HoldsLast.mem_ids {i : Index} (h : i.HoldsLast orders)
    (accepted : ∀ o ∈ orders, ∃ d, o.toDocument = .ok d) {id : String} :
    id ∈ i.ids ↔ ∃ o ∈ orders, o.sourceId = .ok id := by
  rw [← contains_iff, contains, Option.isSome_iff_exists, ← Order.exists_isLast_iff]
  constructor
  · rintro ⟨d, hd⟩
    obtain ⟨o, w, last, -⟩ := (h id d).1 hd
    exact ⟨o, last⟩
  · rintro ⟨o, last⟩
    have mem : o ∈ orders := by
      obtain ⟨before, after, rfl, -⟩ := last
      simp
    obtain ⟨w, hw⟩ := accepted o mem
    exact ⟨w.prepared, (h id _).2 ⟨o, w, last, hw, rfl⟩⟩

end Index

namespace Service

/-- A full update of the index and, at a later time, an optimization. -/
def overhaul (s : Service) (later : Timestamp) : Reply Service BatchResult :=
  (s.run (.job .full)).bind fun _ t => { t with now := later }.run (.job .optimize)

variable {s : Service} {orders : List Order}

/-- A task that fetches every order applies the orders that the source holds. -/
theorem run_of_fetchAll {task : Task} (h : task.TakesAll) (all : s.source.fetchAll = .ok orders) :
    s.run task = ((s.indexer.prepare task).apply s.now s.millis ⟨task, s.now, orders⟩).lift
      fun indexer => { s with indexer } :=
  run_of_ok (Indexer.fetch_of_fetchAll _ _ _ h all)

/-- A full update succeeds. -/
theorem run_full_answers (all : s.source.fetchAll = .ok orders) :
    ∃ r, (s.run (.job .full)).result = .ok r := by
  rw [@run_of_fetchAll s orders (.job .full) trivial all]
  exact ⟨_, rfl⟩

/-- An optimization succeeds if the ids of the orders can be read. -/
theorem run_optimize_answers {ids : List String} (all : s.source.fetchAll = .ok orders)
    (read : orders.mapM Order.sourceId = .ok ids) :
    ∃ r, (s.run (.job .optimize)).result = .ok r := by
  rw [@run_of_fetchAll s orders (.job .optimize) trivial all]
  simp only [Reply.lift, Indexer.apply, Indexer.applyOptimize, read]
  exact ⟨_, rfl⟩

theorem source_run (task : Task) (h : task.TakesAll) (all : s.source.fetchAll = .ok orders) :
    (s.run task).state.source = s.source := by
  rw [run_of_fetchAll h all]
  rfl

theorem index_run (task : Task) (h : task.TakesAll) (all : s.source.fetchAll = .ok orders) :
    (s.run task).state.index = ((s.indexer.prepare task).apply s.now s.millis
      ⟨task, s.now, orders⟩).state.index := by
  rw [run_of_fetchAll h all]
  rfl

/-- A full update inserts the documents of all orders that can be stored. -/
theorem index_run_full (all : s.source.fetchAll = .ok orders) :
    (s.run (.job .full)).state.index =
      s.index.upsertAll (Order.documents Order.toEntry orders) := by
  rw [index_run (.job .full) trivial all, Indexer.index_apply, Indexer.index_prepare]
  rfl

/-- An optimization keeps the documents of the ids that orders bear. -/
theorem index_run_optimize {ids : List String} (all : s.source.fetchAll = .ok orders)
    (read : orders.mapM Order.sourceId = .ok ids) :
    (s.run (.job .optimize)).state.index = s.index.retain fun id => ids.contains id := by
  rw [index_run (.job .optimize) trivial all, Indexer.index_apply, Indexer.index_prepare,
    read]
  rfl

/-- A rebuild whose documents can all be stored succeeds and leaves just these. -/
theorem run_rebuild_of_storable (all : s.source.fetchAll = .ok orders)
    (storable : Order.Storable orders) :
    (∃ r, (s.run .rebuild).result = .ok r) ∧
      (s.run .rebuild).state.index =
        .ofDocuments (Order.documents Order.toDocument orders) := by
  rw [@run_of_fetchAll s orders .rebuild trivial all]
  simp only [Reply.lift, Indexer.apply, Indexer.applyRebuild, Order.mapAll_fst,
    storable.snapshot_eq]
  exact ⟨⟨_, rfl⟩, rfl⟩

/-- A rebuild of which some document cannot be stored fails and changes nothing but what is
counted. -/
theorem run_rebuild_of_not_storable (all : s.source.fetchAll = .ok orders)
    (unstorable : ¬Order.Storable orders) :
    (s.run .rebuild).result = .error .tooManyDigits ∧
      (s.run .rebuild).state = { s with indexer := { s.indexer with stats := .zero } } := by
  rw [@run_of_fetchAll s orders .rebuild trivial all]
  unfold Reply.lift Indexer.apply Indexer.applyRebuild
  simp only [Order.mapAll_fst, Order.snapshot_of_not_storable unstorable]
  exact ⟨trivial, rfl⟩

/-- A rebuild succeeds if all documents can be stored. -/
theorem exists_run_rebuild_iff (all : s.source.fetchAll = .ok orders) :
    (∃ r, (s.run .rebuild).result = .ok r) ↔ Order.Storable orders := by
  constructor
  · rintro ⟨r, answers⟩
    by_contra unstorable
    rw [(run_rebuild_of_not_storable all unstorable).1] at answers
    contradiction
  · intro storable
    exact (run_rebuild_of_storable all storable).1

/-- An overhaul inserts the documents of all orders and keeps those of the ids that orders bear. -/
theorem overhaul_answers {ids : List String} (later : Timestamp)
    (all : s.source.fetchAll = .ok orders) (read : orders.mapM Order.sourceId = .ok ids) :
    (∃ r, (s.overhaul later).result = .ok r) ∧
      (s.overhaul later).state.index =
        (s.index.upsertAll (Order.documents Order.toEntry orders)).retain fun id =>
          ids.contains id := by
  obtain ⟨r, updated⟩ := run_full_answers all
  let t : Service := { (s.run (.job .full)).state with now := later }
  have still : t.source.fetchAll = .ok orders := by
    rw [← all]
    exact congrArg OrderSource.fetchAll (source_run (.job .full) trivial all)
  have index : t.index = s.index.upsertAll (Order.documents Order.toEntry orders) :=
    index_run_full all
  constructor
  · obtain ⟨r', optimized⟩ := run_optimize_answers still read
    exact ⟨r', (Reply.result_bind_of_ok updated _).trans optimized⟩
  · rw [overhaul, Reply.bind, updated, ← index, ← index_run_optimize still read]
    rfl

end Service

/-! ## A depot

A depot whose index holds a parcel that is gone, and where two of the three orders bear one id, once
as a number and once as a text. -/

namespace Depot

/-- An order with an id and a status. -/
def order (id : Datum) (status : String) : Order := .ofAttributes
  [("id", id), ("order_number", .str "N"), ("status", .str status),
    ("created_at", .str "2024-06-01T12:00:00")]

/-- The orders of the source. -/
def orders : List Order :=
  [order (.int 7) "PENDING", order (.str "8") "PENDING", order (.str "7") "SHIPPED"]

/-- The service before the overhaul. -/
def service : Service where
  settings := .default
  indexer := { Indexer.start with index := (Order.indexAll .empty 0 [order (.int 9) "LOST"]).1 }
  engine := .start none
  source := .memory ⟨["a", "b", "c"].zip (orders.map some), none, []⟩
  now := .ofUtc (Shipment.clock 0)
  stopwatch := 0

theorem accepted : ∀ o ∈ orders, ∃ d, o.toDocument = .ok d := by
  have isOk : ∀ o ∈ orders, o.toDocument.isOk = true := by
    decide +kernel
  intro o ho
  exact Except.exists_eq_ok (isOk o ho)

theorem storable : Order.Storable orders := by
  rw [← Order.all_isWritable_iff]
  decide +kernel

/-- The depot when its only order is the one with the endless street. -/
def blocked : Service := { service with source := .memory ⟨[("1", some Order.endless)], none, []⟩ }

end Depot

namespace Service

/-- **Overhauling the index and rebuilding it.**  If every order of the source becomes a document,
then whatever the index held, a full update with an optimization after it succeeds.  No document is
left whose id no order bears, and under the other ids there are the documents that can be stored,
inserted one after the other into what the index held.  A rebuild succeeds if and only if all
documents can be stored.  Both leave the same documents under the same ids then: those of the last
order of each id, and no others.  Otherwise the rebuild fails, and the index and the marks stay as
they were. -/
theorem overhaul_eq_rebuild (s : Service) (later : Timestamp) {orders : List Order}
    (all : s.source.fetchAll = .ok orders) (accepted : ∀ o ∈ orders, ∃ d, o.toDocument = .ok d) :
    (∃ r, (s.overhaul later).result = .ok r) ∧
      (∀ id ∈ (s.overhaul later).state.index.ids, ∃ o ∈ orders, o.sourceId = .ok id) ∧
      (∀ o ∈ orders, ∀ id, o.sourceId = .ok id → (s.overhaul later).state.index.get? id =
        (s.index.upsertAll (Order.documents Order.toEntry orders)).get? id) ∧
      (s.settings.leavesNoTime = .ok false → s.forceReindex = s.run .rebuild) ∧
      ((∃ r, (s.run .rebuild).result = .ok r) ↔ Order.Storable orders) ∧
      (Order.Storable orders →
        (∀ id, (s.overhaul later).state.index.get? id = (s.run .rebuild).state.index.get? id) ∧
          (s.overhaul later).state.index.HoldsLast orders ∧
          (s.run .rebuild).state.index.HoldsLast orders ∧
          ∀ id, id ∈ (s.overhaul later).state.index.ids ↔ ∃ o ∈ orders, o.sourceId = .ok id) ∧
      (¬Order.Storable orders →
        (s.run .rebuild).result = .error .tooManyDigits ∧
          (s.run .rebuild).state = { s with indexer := { s.indexer with stats := .zero } }) := by
  have readable : ∀ o ∈ orders, ∃ id, o.sourceId = .ok id := by
    intro o ho
    obtain ⟨d, hd⟩ := accepted o ho
    exact ⟨d.id, Order.sourceId_of_toDocument hd⟩
  obtain ⟨ids, read, mem_ids⟩ := Order.mapM_sourceId_eq_ok readable
  obtain ⟨answers, index⟩ := overhaul_answers later all read
  refine ⟨answers, ?_, ?_, fun time => by simp only [forceReindex, runInTime, time],
    exists_run_rebuild_iff all, fun storable => ?_, run_rebuild_of_not_storable all⟩
  · intro id there
    rw [index, Index.mem_ids_retain, List.contains_iff_mem] at there
    exact (mem_ids id).1 there.2
  · intro o ho id hid
    rw [index, Index.get?_retain, if_pos (List.contains_iff_mem.2 ((mem_ids id).2 ⟨o, ho, hid⟩))]
  have keeps : ∀ id, ids.contains id = true ↔
      ∃ d ∈ Order.documents Order.toDocument orders, d.id = id := by
    intro id
    rw [List.contains_iff_mem, mem_ids, Order.exists_sourceId_iff accepted]
  obtain ⟨-, rebuild⟩ := run_rebuild_of_storable all storable
  have same : ∀ id,
      (s.overhaul later).state.index.get? id = (s.run .rebuild).state.index.get? id := by
    intro id
    rw [index, rebuild, storable.documents_eq]
    exact Index.get?_retain_upsertAll keeps id
  have rebuilt : (s.run .rebuild).state.index.HoldsLast orders := by
    rw [rebuild]
    exact Index.holdsLast_ofDocuments accepted
  have overhauled : (s.overhaul later).state.index.HoldsLast orders := by
    intro id d
    rw [same]
    exact rebuilt id d
  exact ⟨same, overhauled, rebuilt, fun id => overhauled.mem_ids accepted⟩

/-- The overhaul of the depot takes out the parcel that is gone, and so does a rebuild. -/
theorem overhaul_depot : Depot.service.source.fetchAll = .ok Depot.orders ∧
    (∀ o ∈ Depot.orders, ∃ d, o.toDocument = .ok d) ∧ Order.Storable Depot.orders ∧
    "9" ∈ Depot.service.index.ids ∧
    "9" ∉ (Depot.service.overhaul (.ofUtc (Shipment.clock 1))).state.index.ids ∧
    (Depot.service.overhaul (.ofUtc (Shipment.clock 1))).state.index.HoldsLast Depot.orders ∧
    Depot.service.forceReindex.state.index.HoldsLast Depot.orders := by
  have all : Depot.service.source.fetchAll = .ok Depot.orders := rfl
  obtain ⟨-, -, -, forced, -, agree, -⟩ :=
    overhaul_eq_rebuild Depot.service (.ofUtc (Shipment.clock 1)) all Depot.accepted
  obtain ⟨-, overhauled, rebuilt, mem_ids⟩ := agree Depot.storable
  refine ⟨all, Depot.accepted, Depot.storable, by decide +kernel, ?_, overhauled, ?_⟩
  · rw [mem_ids]
    rintro ⟨o, ho, hid⟩
    have other : ∀ o ∈ Depot.orders, o.sourceId.toOption ≠ some "9" := by
      decide +kernel
    exact other o ho (congrArg Except.toOption hid)
  · rw [forced rfl]
    exact rebuilt

/-- The only order in the depot with the endless street becomes a document.  An overhaul takes out
the parcel that is gone, and a rebuild fails and leaves it there. -/
theorem not_overhaul_eq_rebuild : Depot.blocked.source.fetchAll = .ok [Order.endless] ∧
    (∃ d, Order.endless.toDocument = .ok d) ∧ Depot.blocked.index.ids = ["9"] ∧
    (∃ r, (Depot.blocked.overhaul (.ofUtc (Shipment.clock 1))).result = .ok r) ∧
    (Depot.blocked.overhaul (.ofUtc (Shipment.clock 1))).state.index.ids = [] ∧
    Depot.blocked.forceReindex.result = .error .tooManyDigits ∧
    Depot.blocked.forceReindex.state.index.ids = ["9"] := by
  have all : Depot.blocked.source.fetchAll = .ok [Order.endless] := rfl
  have read : [Order.endless].mapM Order.sourceId = .ok ["1"] := rfl
  have forced : Depot.blocked.forceReindex = Depot.blocked.run .rebuild := rfl
  obtain ⟨answers, index⟩ := overhaul_answers (.ofUtc (Shipment.clock 1)) all read
  obtain ⟨result, state⟩ := run_rebuild_of_not_storable all Order.not_storable_endless
  refine ⟨all, ⟨_, rfl⟩, by decide +kernel, answers, ?_, ?_, ?_⟩
  · rw [index, Order.documents_toEntry_endless]
    decide +kernel
  · rw [forced, result]
  · rw [forced, state]
    decide +kernel

end Service

end OrderRetrieval

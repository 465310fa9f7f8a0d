import Mathlib.Data.List.Pairwise
import OrderRetrieval.Proofs.Service.Bookkeeping
import OrderRetrieval.Proofs.Service.Rebuild

/-!
# Updating one order

The update of one order reads just that order.  It touches nothing but the document under the id of
the order, where it leaves what a full update leaves there, and what is counted about indexing
(`Service.reindexOne_touches`).  An order that is gone or broken, or whose document cannot be
stored, takes nothing out of the index.
-/

namespace OrderRetrieval

/-! ## One document -/

/-- Whether two indexes hold the same documents in the same order, except perhaps under an id. -/
def Index.AgreeOff (i j : Index) (id : String) : Prop := i.delete id = j.delete id

namespace Index

theorem AgreeOff.get?_eq {i j : Index} {id other : String} (h : i.AgreeOff j id)
    (ne : other ≠ id) : i.get? other = j.get? other := by
  have left := get?_delete i id other
  rw [h, get?_delete, if_neg ne, if_neg ne] at left
  exact left.symm

theorem filter_place (d : Document) (es : List Document) :
    ((place d es).filter fun e => e.id != d.id) = es.filter fun e => e.id != d.id := by
  induction es with
  | nil => simp [place]
  | cons e es ih =>
    by_cases h : e.id = d.id
    · simp [place, h]
    · simp [place, h, ih]

/-- Inserting a document changes nothing except under its id. -/
theorem agreeOff_upsert (i : Index) (d : Document) : (i.upsert d).AgreeOff i d.id := by
  rw [AgreeOff, delete, delete, mk.injEq]
  exact filter_place d.prepared i.documents

end Index

/-! ## One order among others -/

/-- Whether no id is that of both orders. -/
def Order.Differ (o p : Order) : Prop := ∀ id, o.sourceId = .ok id → p.sourceId ≠ .ok id

instance Order.symm_differ : Std.Symm Order.Differ where
  symm _ _ differ id hp ho := differ id ho hp

/-- Whether no two orders bear one id. -/
def Order.UniqueIds (orders : List Order) : Prop := orders.Pairwise Order.Differ

/-- Of orders with different ids just one bears a given id. -/
theorem Order.UniqueIds.eq_of_sourceId_eq {orders : List Order} (h : UniqueIds orders)
    {o p : Order} (ho : o ∈ orders) (hp : p ∈ orders) {id : String} (hid : o.sourceId = .ok id)
    (hid' : p.sourceId = .ok id) : o = p := by
  by_contra ne
  exact List.Pairwise.forall h ho hp ne id hid hid'

/-- Where an order has an id of its own, inserting all documents leaves its document. -/
theorem Order.UniqueIds.get?_upsertAll {orders : List Order} (h : UniqueIds orders) {o : Order}
    (ho : o ∈ orders) {d : Document} (hd : o.toEntry = .ok d) (i : Index) :
    (i.upsertAll (documents toEntry orders)).get? d.id = some d.prepared := by
  have sourceId {p : Order} {e : Document} (hp : p.toEntry = .ok e) : p.sourceId = .ok e.id :=
    sourceId_of_toDocument (toEntry_eq_ok.1 hp).1
  refine Index.get?_upsertAll_of_mem (mem_documents.2 ⟨o, ho, hd⟩) ?_
  intro e he same
  obtain ⟨p, hp, hpe⟩ := mem_documents.1 he
  have hid := sourceId hpe
  rw [same] at hid
  obtain rfl := h.eq_of_sourceId_eq ho hp (sourceId hd) hid
  exact Except.ok.inj (hpe.symm.trans hd)

/-- An order that is found is one of those that the source has. -/
theorem OrderSource.mem_of_fetchOne {source : OrderSource} {id : Datum} {o : Order}
    (h : source.fetchOne id = .ok (some o)) :
    ∃ orders, source.fetchAll = .ok orders ∧ o ∈ orders := by
  cases source with
  | memory m =>
    cases down : m.fault with
    | some reason => simp [fetchOne, OrderMemory.answer, down] at h
    | none =>
      simp only [fetchOne, OrderMemory.answer, down, Except.ok.injEq] at h
      obtain ⟨before, after, held, -⟩ := List.lookup_eq_some_iff.1 (Option.join_eq_some_iff.1 h)
      refine ⟨m.all, by simp [fetchAll, OrderMemory.answer, down], ?_⟩
      rw [OrderMemory.all, held]
      exact List.mem_map_of_mem (List.mem_append_right _ List.mem_cons_self)
  | table t =>
    obtain ⟨row, found, eq⟩ := Except.map_eq_ok.1 h
    obtain ⟨r, rfl, rfl⟩ := Option.map_eq_some_iff.1 eq
    exact ⟨_, rfl, List.mem_map_of_mem (OrderTable.mem_all.2 (OrderTable.mem_of_findBy found))⟩

namespace Service

variable {s : Service} {id : Datum} {o : Order}

/-- An update whose source cannot be read fails under its name and changes nothing. -/
theorem reindexOne_of_unavailable {e : Failure} (down : s.source.fetchOne id = .error e) :
    s.reindexOne id = ⟨.error (.jobFailed "reindex_one" e.message), s, []⟩ := by
  have asked : s.indexer.ask s.settings s.now s.source (.one id) = .ok (.error e, s.source) := by
    rw [Indexer.ask, down]
    rfl
  rw [reindexOne, run_of_unavailable asked]
  rfl

/-- An update that does not find its order changes nothing. -/
theorem reindexOne_of_missing (missing : s.source.fetchOne id = .ok none) :
    s.reindexOne id = ⟨.ok false, s, [.orderMissing id.text]⟩ := by
  have fetched : (s.indexer.prepare (.one id)).fetch s.settings s.now s.source (.one id) =
      (.ok ⟨.one id, s.now, []⟩, s.source) := by
    rw [Indexer.fetch, Indexer.ask, missing]
    rfl
  rw [reindexOne, run_of_ok fetched]
  rfl

/-- The service after a batch of just one order. -/
def updated (s : Service) (o : Order) : Service :=
  { s with indexer := { s.indexer with
      index := s.index.upsertAll (Order.documents Order.toEntry [o])
      stats := s.indexer.stats.record (Order.outcome Order.toEntry s.millis [o]) s.now } }

/-- An update that finds its order applies it as a batch. -/
theorem reindexOne_of_found (found : s.source.fetchOne id = .ok (some o)) :
    s.reindexOne id =
      ⟨.ok o.toEntry.isOk, s.updated o, (Order.outcome Order.toEntry s.millis [o]).notices⟩ := by
  have fetched : (s.indexer.prepare (.one id)).fetch s.settings s.now s.source (.one id) =
      (.ok ⟨.one id, s.now, [o]⟩, s.source) := by
    rw [Indexer.fetch, Indexer.ask, found]
    rfl
  have indexed : ((Order.outcome Order.toEntry s.millis [o]).indexed == 1) = o.toEntry.isOk := by
    rw [Order.outcome, Order.documents_cons]
    cases o.toEntry <;> rfl
  rw [reindexOne, run_of_ok fetched, ← indexed, updated, ← Order.indexAll_fst s.index s.millis,
    ← Order.indexAll_snd s.index]
  rfl

/-- An order that is rejected is counted and leaves the index alone. -/
theorem updated_of_rejected {e : Failure} (rejected : o.toEntry = .error e) :
    (s.updated o).index = s.index ∧
      (s.updated o).indexer.stats.errors = s.indexer.stats.errors + 1 ∧
      (s.updated o).indexer.stats.indexed = s.indexer.stats.indexed := by
  have documents : Order.documents Order.toEntry [o] = [] := by
    rw [Order.documents_cons, rejected]
    rfl
  have rejections : Order.rejections Order.toEntry [o] = [e.message] := by
    rw [Order.rejections_cons, rejected]
    rfl
  unfold updated Order.outcome
  rw [documents, rejections]
  exact ⟨rfl, rfl, rfl⟩

/-- An order that is accepted is counted and its document inserted. -/
theorem updated_of_accepted {d : Document} (accepted : o.toEntry = .ok d) :
    (s.updated o).index = s.index.upsert d ∧
      (s.updated o).indexer.stats.errors = s.indexer.stats.errors ∧
      (s.updated o).indexer.stats.indexed = s.indexer.stats.indexed + 1 := by
  have documents : Order.documents Order.toEntry [o] = [d] := Order.documents_singleton accepted
  have rejections : Order.rejections Order.toEntry [o] = [] := by
    rw [Order.rejections_cons, accepted]
    rfl
  unfold updated Order.outcome
  rw [documents, rejections]
  exact ⟨rfl, rfl, rfl⟩

/-- A full update leaves the document of an order with an id of its own. -/
theorem get?_run_full {orders : List Order} (all : s.source.fetchAll = .ok orders)
    (unique : Order.UniqueIds orders) (mem : o ∈ orders) {d : Document}
    (accepted : o.toEntry = .ok d) :
    (∃ r, (s.run (.job .full)).result = .ok r) ∧
      (s.run (.job .full)).state.index.get? d.id = some d.prepared := by
  refine ⟨run_full_answers all, ?_⟩
  rw [index_run_full all]
  exact unique.get?_upsertAll mem accepted s.index

/-! ## A counter

Of the two orders at the counter the one with the id 8 is broken.  Its older document is in the
index. -/

namespace Counter

/-- The order that has not been indexed yet. -/
def fresh : Order := Depot.order (.int 7) "PENDING"

/-- The order that is broken. -/
def broken : Order := .ofAttributes [("id", .int 8), ("total_amount", .str "broken")]

/-- The service at the counter. -/
def service : Service :=
  { Depot.service with
    indexer := { Indexer.start with
      index := (Order.indexAll .empty 0 [Depot.order (.int 8) "PENDING"]).1 }
    source := .memory ⟨[("7", some fresh), ("8", some broken)], none, []⟩ }

theorem uniqueIds : Order.UniqueIds [fresh, broken] := by
  refine List.pairwise_pair.2 fun id hid hid' => ?_
  have seven : fresh.sourceId = .ok "7" := rfl
  have eight : broken.sourceId = .ok "8" := rfl
  rw [seven, Except.ok.injEq] at hid
  rw [eight, Except.ok.injEq, ← hid] at hid'
  exact absurd hid' (by decide)

end Counter

/-- **The update of one order touches one document.**  If the source does not have the order,
nothing changes.  If the order cannot become a document, or its document cannot be stored, the index
stays as it was and one more error is counted.  Otherwise the documents under other ids stay as they
were and in their order, and under the id of the order there is what a full update of any service
with that source leaves there, as long as the orders have different ids.  The marks stay as they
were, and so does everything else but what is counted about indexing. -/
theorem reindexOne_touches (s : Service) (id : Datum) :
    (∀ e, s.source.fetchOne id = .error e →
      (s.reindexOne id).result = .error (.jobFailed "reindex_one" e.message) ∧
        (s.reindexOne id).state = s) ∧
    (s.source.fetchOne id = .ok none →
      (s.reindexOne id).result = .ok false ∧ (s.reindexOne id).state = s) ∧
    ∀ o, s.source.fetchOne id = .ok (some o) →
      let t := (s.reindexOne id).state
      t = { s with indexer := { s.indexer with index := t.index, stats := t.indexer.stats } } ∧
        ((∃ e, o.toDocument = .error e) ∨ (∃ d, o.toDocument = .ok d ∧ d.isWritable = false) →
          (s.reindexOne id).result = .ok false ∧ t.index = s.index ∧
            t.indexer.stats.errors = s.indexer.stats.errors + 1 ∧
            t.indexer.stats.indexed = s.indexer.stats.indexed) ∧
        ∀ d, o.toDocument = .ok d → d.isWritable = true →
          (s.reindexOne id).result = .ok true ∧ o.sourceId = .ok d.id ∧
            t.index.AgreeOff s.index d.id ∧
            (∀ other, other ≠ d.id → t.index.get? other = s.index.get? other) ∧
            t.index.get? d.id = some d.prepared ∧
            t.indexer.stats.errors = s.indexer.stats.errors ∧
            t.indexer.stats.indexed = s.indexer.stats.indexed + 1 ∧
            ∃ orders, s.source.fetchAll = .ok orders ∧ o ∈ orders ∧
              (Order.UniqueIds orders → ∀ u : Service, u.source = s.source →
                (∃ r, (u.run (.job .full)).result = .ok r) ∧
                  (u.run (.job .full)).state.index.get? d.id = t.index.get? d.id) := by
  refine ⟨fun e down => ?_, fun missing => ?_, fun o found => ?_⟩
  · rw [reindexOne_of_unavailable down]
    exact ⟨rfl, rfl⟩
  · rw [reindexOne_of_missing missing]
    exact ⟨rfl, rfl⟩
  rw [reindexOne_of_found found]
  refine ⟨rfl, fun barred => ?_, fun d mapped writable => ?_⟩
  · obtain ⟨e, rejected⟩ := Order.exists_toEntry_eq_error_iff.2 barred
    exact ⟨congrArg (Except.ok ∘ Except.isOk) rejected, updated_of_rejected rejected⟩
  have accepted : o.toEntry = .ok d := Order.toEntry_eq_ok.2 ⟨mapped, writable⟩
  obtain ⟨index, errors, indexed⟩ := @updated_of_accepted s o d accepted
  have off : (s.updated o).index.AgreeOff s.index d.id := index ▸ s.index.agreeOff_upsert d
  have stored : (s.updated o).index.get? d.id = some d.prepared := by
    rw [index, Index.get?_upsert, if_pos rfl]
  obtain ⟨orders, all, mem⟩ := OrderSource.mem_of_fetchOne found
  refine ⟨congrArg (Except.ok ∘ Except.isOk) accepted, Order.sourceId_of_toDocument mapped, off,
    fun other ne => off.get?_eq ne, stored, errors, indexed, orders, all, mem,
    fun unique u same => ?_⟩
  rw [← same] at all
  dsimp only
  rw [stored]
  exact get?_run_full all unique mem accepted

/-- At the counter an unknown order changes nothing, the broken one keeps its document, and the
other one gets the document that a full update would give it. -/
theorem reindexOne_touches_counter :
    (Counter.service.reindexOne (.int 5)).state = Counter.service ∧
      (Counter.service.reindexOne (.int 8)).result = .ok false ∧
      (Counter.service.reindexOne (.int 8)).state.index.ids = ["8"] ∧
      (Counter.service.reindexOne (.str "8")).state.indexer.stats.errors = 1 ∧
      ∃ d, Counter.fresh.toDocument = .ok d ∧ d.id = "7" ∧
        (Counter.service.reindexOne (.int 7)).result = .ok true ∧
        (Counter.service.reindexOne (.int 7)).state.index.get? "8" =
          Counter.service.index.get? "8" ∧
        (Counter.service.reindexOne (.int 7)).state.index.get? "7" = some d.prepared ∧
        (Counter.service.run (.job .full)).state.index.get? "7" = some d.prepared := by
  have rejected : ∃ e, Counter.broken.toDocument = .error e := ⟨_, rfl⟩
  obtain ⟨d, accepted, writable⟩ :
      ∃ d, Counter.fresh.toDocument = .ok d ∧ d.isWritable = true := ⟨_, rfl, rfl⟩
  obtain ⟨-, missing, -⟩ := reindexOne_touches Counter.service (.int 5)
  obtain ⟨-, -, found⟩ := reindexOne_touches Counter.service (.int 8)
  obtain ⟨result, index, -⟩ := (found Counter.broken rfl).2.1 (.inl rejected)
  obtain ⟨-, -, found⟩ := reindexOne_touches Counter.service (.str "8")
  obtain ⟨-, -, errors, -⟩ := (found Counter.broken rfl).2.1 (.inl rejected)
  obtain ⟨-, -, found⟩ := reindexOne_touches Counter.service (.int 7)
  obtain ⟨result', hid, -, others, stored, -, -, orders, all, -, full⟩ :=
    (found Counter.fresh rfl).2.2 d accepted writable
  have id : d.id = "7" := (Except.ok.inj hid).symm
  obtain rfl : [Counter.fresh, Counter.broken] = orders := Except.ok.inj all
  have same := (full Counter.uniqueIds Counter.service rfl).2
  rw [id] at others stored same
  refine ⟨(missing rfl).2, result, ?_, errors, d, accepted, id, result', ?_, stored,
    same.trans stored⟩
  · rw [index]
    decide +kernel
  · exact others "8" (by decide)

/-- The order with the endless street can be mapped, and still its update answers no and counts an
error. -/
theorem not_reindexOne_touches :
    Depot.blocked.source.fetchOne (.str "1") = .ok (some Order.endless) ∧
    (∃ d, Order.endless.toDocument = .ok d) ∧
    (Depot.blocked.reindexOne (.str "1")).result = .ok false ∧
    (Depot.blocked.reindexOne (.str "1")).state.index.ids = ["9"] ∧
    (Depot.blocked.reindexOne (.str "1")).state.indexer.stats.errors = 1 := by
  have found : Depot.blocked.source.fetchOne (.str "1") = .ok (some Order.endless) := rfl
  have barred : Order.endless.toEntry.isOk = false := by
    decide +kernel
  rw [reindexOne_of_found found, barred]
  exact ⟨found, ⟨_, rfl⟩, rfl, by decide +kernel, by decide +kernel⟩

end Service

end OrderRetrieval

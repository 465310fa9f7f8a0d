import OrderRetrieval.Proofs.Service.Rebuild

/-!
# Taking out orphans

An orphan is a document whose id no order of the source bears.  An optimization of which no other
task comes in between takes out just the orphans: what it leaves are the other documents, as they
were and in their order, and it reports how many it took out (`Service.optimize_takes_orphans`).
It does not matter whether the orders could still become documents.
-/

namespace OrderRetrieval

open Calendar (Timestamp)

/-- Whether some order bears an id. -/
def Order.isBorne (orders : List Order) (id : String) : Bool :=
  orders.any fun o => o.sourceId.toOption == some id

theorem Order.isBorne_iff {orders : List Order} {id : String} :
    isBorne orders id = true ↔ ∃ o ∈ orders, o.sourceId = .ok id := by
  rw [isBorne, List.any_eq_true]
  refine exists_congr fun o => and_congr_right fun _ => ?_
  cases o.sourceId <;> simp [Except.toOption]

/-- The ids that were read are those that orders bear. -/
theorem Order.contains_eq_isBorne {orders : List Order} {ids : List String}
    (mem_ids : ∀ id, id ∈ ids ↔ ∃ o ∈ orders, o.sourceId = .ok id) (id : String) :
    ids.contains id = isBorne orders id := by
  rw [Bool.eq_iff_iff, List.contains_iff_mem, mem_ids, isBorne_iff]

/-- The documents of an index whose ids no order bears. -/
def Index.orphans (i : Index) (orders : List Order) : List Document :=
  i.documents.filter fun d => !Order.isBorne orders d.id

namespace Index

variable {orders : List Order}

/-- What is kept and what is not make up the index. -/
theorem length_orphans_add_size_retain (i : Index) (orders : List Order) :
    (i.orphans orders).length + (i.retain (Order.isBorne orders)).size = i.size := by
  rw [orphans, size, retain, size, Nat.add_comm]
  exact (List.length_eq_length_filter_add _).symm

/-- Where nothing but orphans was taken out no orphan is left. -/
theorem orphans_retain (i : Index) (orders : List Order) :
    (i.retain (Order.isBorne orders)).orphans orders = [] := by
  rw [orphans, retain, List.filter_eq_nil_iff]
  intro d hd
  rw [(List.mem_filter.1 hd).2]
  exact Bool.false_ne_true

/-- A sweep that keeps the ids of orders takes out the orphans. -/
theorem sweep_eq {ids : List String}
    (mem_ids : ∀ id, id ∈ ids ↔ ∃ o ∈ orders, o.sourceId = .ok id) (i : Index) :
    i.sweep ids = (i.retain (Order.isBorne orders), (i.orphans orders).length) := by
  have left : (i.sweep ids).1 = i.retain (Order.isBorne orders) := by
    rw [fst_sweep]
    exact retain_congr fun id _ => Order.contains_eq_isBorne mem_ids id
  refine Prod.ext left ?_
  have swept := snd_sweep i ids
  rw [left, ← length_orphans_add_size_retain i orders] at swept
  exact Nat.add_right_cancel swept

end Index

/-- What applying an optimization does, if the ids of the orders can be read. -/
theorem Indexer.apply_optimize {orders : List Order}
    (readable : ∀ o ∈ orders, ∃ id, o.sourceId = .ok id) (x : Indexer) (started now : Timestamp)
    (millis : Float) :
    x.apply now millis ⟨.job .optimize, started, orders⟩ =
      ⟨.ok { BatchResult.start 0 with total := (x.index.orphans orders).length },
        { x with
          index := x.index.retain (Order.isBorne orders)
          marks := { x.marks with optimize := some now } }, []⟩ := by
  obtain ⟨ids, read, mem_ids⟩ := Order.mapM_sourceId_eq_ok readable
  simp only [apply, applyOptimize, read, Index.sweep_eq mem_ids, Index.compact_eq]

namespace Service

/-- The service after an optimization that has fetched some orders. -/
def swept (s : Service) (orders : List Order) : Service :=
  { s with indexer := { s.indexer with
      index := s.index.retain (Order.isBorne orders)
      marks := { s.indexer.marks with optimize := some s.now } } }

/-- What an optimization does, if the ids of the orders can be read. -/
theorem run_optimize {s : Service} {orders : List Order} (all : s.source.fetchAll = .ok orders)
    (readable : ∀ o ∈ orders, ∃ id, o.sourceId = .ok id) :
    s.run (.job .optimize) =
      ⟨.ok { BatchResult.start 0 with total := (s.index.orphans orders).length },
        s.swept orders, []⟩ := by
  rw [@run_of_fetchAll s orders (.job .optimize) trivial all]
  exact congrArg (Reply.lift fun indexer => { s with indexer })
    (Indexer.apply_optimize readable s.indexer s.now s.now s.millis)

/-! ## A cellar

The index holds two bottles.  The order of one is there, but can no longer become a document; beside
it there is an order without an id. -/

namespace Cellar

/-- The orders of the source. -/
def orders : List Order :=
  [.ofAttributes [("id", .str "7"), ("total_amount", .str "broken")], .ofAttributes []]

/-- The service before the optimization. -/
def service : Service :=
  { Depot.service with
    indexer := { Indexer.start with
      index := (Order.indexAll .empty 0
        [Depot.order (.int 9) "LOST", Depot.order (.int 7) "PENDING"]).1 }
    source := .memory ⟨["7", "None"].zip (orders.map some), none, []⟩ }

theorem readable : ∀ o ∈ orders, ∃ id, o.sourceId = .ok id :=
  List.forall_mem_cons.2 ⟨⟨"7", rfl⟩, List.forall_mem_singleton.2 ⟨"None", rfl⟩⟩

end Cellar

/-- **An optimization takes out just the orphans.**  It leaves the documents whose ids orders bear,
as they were and in their order, reports the number of those that it took out, and changes nothing
else but its mark.  Another one right after it takes out nothing.  Every order, whether it can
become a document or not, bears the id that its document would have. -/
theorem optimize_takes_orphans (s : Service) {orders : List Order}
    (all : s.source.fetchAll = .ok orders)
    (readable : ∀ o ∈ orders, ∃ id, o.sourceId = .ok id) :
    let t := (s.run (.job .optimize)).state
    (∃ r, (s.run (.job .optimize)).result = .ok r ∧ r.total = (s.index.orphans orders).length) ∧
      t.index.documents = s.index.documents.filter (fun d => Order.isBorne orders d.id) ∧
      t = { s with indexer := { s.indexer with
        index := t.index, marks := { s.indexer.marks with optimize := some s.now } } } ∧
      (∀ later, let again := { t with now := later }.run (.job .optimize)
        (∃ r, again.result = .ok r ∧ r.total = 0) ∧ again.state.index = t.index) ∧
      (∀ id, Order.isBorne orders id = true ↔ ∃ o ∈ orders, o.sourceId = .ok id) ∧
      ∀ (o : Order) (d : Document), o.toDocument = .ok d → o.sourceId = .ok d.id := by
  rw [run_optimize all readable]
  refine ⟨⟨_, rfl, rfl⟩, rfl, rfl, fun later => ?_, fun id => Order.isBorne_iff, ?_⟩
  · have none : (s.swept orders).index.orphans orders = [] := s.index.orphans_retain orders
    have kept : (s.swept orders).index.retain (Order.isBorne orders) = (s.swept orders).index :=
      s.index.retain_retain_self (Order.isBorne orders)
    dsimp only
    rw [@run_optimize { s.swept orders with now := later } orders all readable]
    exact ⟨⟨_, rfl, congrArg List.length none⟩, kept⟩
  · intro o d h
    exact Order.sourceId_of_toDocument h

/-- The bottle whose order is gone is taken out, and the one whose order is broken stays. -/
theorem optimize_takes_orphans_cellar :
    Cellar.service.source.fetchAll = .ok Cellar.orders ∧
      (∀ o ∈ Cellar.orders, ∃ id, o.sourceId = .ok id) ∧
      Order.documents Order.toDocument Cellar.orders = [] ∧ Cellar.service.index.ids = ["9", "7"] ∧
      (Cellar.service.run (.job .optimize)).state.index.ids = ["7"] ∧
      ∃ r, (Cellar.service.run (.job .optimize)).result = .ok r ∧ r.total = 1 := by
  have all : Cellar.service.source.fetchAll = .ok Cellar.orders := rfl
  obtain ⟨⟨r, answered, total⟩, left, -⟩ :=
    optimize_takes_orphans Cellar.service all Cellar.readable
  refine ⟨all, Cellar.readable, ?_, by decide +kernel, ?_, r, answered, total.trans ?_⟩
  · decide +kernel
  · rw [Index.ids, left]
    decide +kernel
  · decide +kernel

end Service

end OrderRetrieval

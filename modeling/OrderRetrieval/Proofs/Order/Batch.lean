import OrderRetrieval.Order.Batch
import OrderRetrieval.Proofs.Index.Lookup
import OrderRetrieval.Proofs.Order.Mapping

/-!
# What a batch of orders does to the index

An order is mapped to a document (`Order.toDocument`), and indexing it asks further that the
document can be stored (`Order.toEntry`).  Indexing a batch inserts the documents of the orders for
which both goes well, one after the other (`indexAll_fst`); mapping a batch lists those for which
the first does (`mapAll_fst`).  The results count the orders and word the rejections accordingly
(`indexAll_snd`, `mapAll_snd`).
-/

namespace OrderRetrieval.Order

/-! ### Entries -/

/-- The document with which an order goes into the index, without its searchable text: that text has
to be one that can be written. -/
def toEntry (o : Order) : Except Failure Document := do
  let d ← o.toDocument
  if d.isWritable then .ok d
  else .error (.orderRejected (.str d.id) Failure.tooManyDigits.message)

variable {o : Order} {d : Document}

theorem toEntry_eq_ok : o.toEntry = .ok d ↔ o.toDocument = .ok d ∧ d.isWritable = true := by
  unfold toEntry
  rw [Except.bind_eq_ok]
  constructor
  · rintro ⟨e, he, h⟩
    split at h
    · next writable =>
      cases h
      exact ⟨he, writable⟩
    · contradiction
  · rintro ⟨h, writable⟩
    exact ⟨d, h, if_pos writable⟩

theorem toEntry_of_not_writable (h : o.toDocument = .ok d) (unwritable : d.isWritable = false) :
    o.toEntry = .error (.orderRejected (.str d.id) Failure.tooManyDigits.message) := by
  rw [toEntry, h]
  exact if_neg (Bool.eq_false_iff.1 unwritable)

theorem toEntry_of_rejected {e : Failure} (h : o.toDocument = .error e) : o.toEntry = .error e := by
  rw [toEntry, h]
  rfl

/-- An order does not go into the index if it cannot be mapped or its document not be stored. -/
theorem exists_toEntry_eq_error_iff :
    (∃ e, o.toEntry = .error e) ↔
      (∃ e, o.toDocument = .error e) ∨ ∃ d, o.toDocument = .ok d ∧ d.isWritable = false := by
  cases h : o.toDocument with
  | error e => simp [toEntry_of_rejected h]
  | ok d =>
    cases writable : d.isWritable with
    | true => simp [toEntry_eq_ok.2 ⟨h, writable⟩, writable]
    | false => simp [toEntry_of_not_writable h writable, writable]

/-- An order that does not go into the index is rejected with a reason. -/
theorem rejected_of_toEntry {e : Failure} (h : o.toEntry = .error e) :
    ∃ id reason, e = .orderRejected id reason := by
  cases hd : o.toDocument with
  | error e' =>
    rw [toEntry_of_rejected hd] at h
    cases h
    exact rejected_of_toDocument hd
  | ok d =>
    cases writable : d.isWritable with
    | true =>
      rw [toEntry_eq_ok.2 ⟨hd, writable⟩] at h
      contradiction
    | false =>
      rw [toEntry_of_not_writable hd writable] at h
      cases h
      exact ⟨_, _, rfl⟩

/-- An order goes into an index by its entry being inserted. -/
theorem enter_eq (i : Index) (o : Order) : enter i o = o.toEntry.map i.upsert := by
  unfold enter toEntry Index.store
  cases o.toDocument with
  | error e => rfl
  | ok d =>
    simp only [bind, Except.bind]
    cases d.isWritable <;> rfl

/-! ### The documents of a batch

The orders of a batch are read one by one: each is mapped, or it is mapped and stored. -/

section Reading

variable {reading : Order → Except Failure Document}

/-- The documents of the orders that are not rejected. -/
def documents (reading : Order → Except Failure Document) (orders : List Order) : List Document :=
  orders.filterMap fun o => (reading o).toOption

theorem mem_documents {orders : List Order} :
    d ∈ documents reading orders ↔ ∃ o ∈ orders, reading o = .ok d := by
  simp only [documents, List.mem_filterMap]
  refine exists_congr fun o => and_congr_right fun _ => ?_
  cases reading o <;> simp [Except.toOption]

theorem documents_cons (o : Order) (orders : List Order) :
    documents reading (o :: orders) =
      (match reading o with
        | .ok d => [d]
        | .error _ => []) ++ documents reading orders := by
  simp only [documents, List.filterMap_cons]
  cases reading o <;> rfl

theorem documents_append (orders others : List Order) :
    documents reading (orders ++ others) = documents reading orders ++ documents reading others :=
  List.filterMap_append

theorem documents_singleton (h : reading o = .ok d) : documents reading [o] = [d] := by
  rw [documents_cons, h]
  rfl

/-- The wordings of the rejections of orders. -/
def rejections (reading : Order → Except Failure Document) (orders : List Order) : List String :=
  orders.filterMap fun o =>
    match reading o with
    | .ok _ => none
    | .error e => some e.message

theorem rejections_cons (o : Order) (orders : List Order) :
    rejections reading (o :: orders) =
      (match reading o with
        | .ok _ => []
        | .error e => [e.message]) ++ rejections reading orders := by
  simp only [rejections, List.filterMap_cons]
  cases reading o <;> rfl

theorem length_documents_add_rejections (reading : Order → Except Failure Document)
    (orders : List Order) :
    (documents reading orders).length + (rejections reading orders).length = orders.length := by
  induction orders with
  | nil => rfl
  | cons o orders ih =>
    rw [documents_cons, rejections_cons, List.length_append, List.length_append, List.length_cons]
    cases reading o with
    | ok d => simp only [List.length_singleton, List.length_nil]; omega
    | error e => simp only [List.length_singleton, List.length_nil]; omega

/-- What becomes of the result of a batch with one more order. -/
def tally (reading : Order → Except Failure Document) (r : BatchResult) (o : Order) : BatchResult :=
  match reading o with
  | .ok _ => r.success
  | .error e => r.failure e.message

theorem foldl_tally (r : BatchResult) (orders : List Order) :
    orders.foldl (tally reading) r =
      { total := r.total + orders.length
        indexed := r.indexed + (documents reading orders).length
        failed := r.failed + (rejections reading orders).length
        millis := r.millis
        errors := r.errors ++ rejections reading orders } := by
  induction orders generalizing r with
  | nil => simp [documents, rejections]
  | cons o orders ih =>
    rw [List.foldl_cons, ih, documents_cons, rejections_cons, tally]
    cases reading o with
    | ok d => simp [BatchResult.success]; omega
    | error e => simp [BatchResult.failure]; omega

/-- How a batch of orders goes. -/
def outcome (reading : Order → Except Failure Document) (millis : Float) (orders : List Order) :
    BatchResult where
  total := orders.length
  indexed := (documents reading orders).length
  failed := (rejections reading orders).length
  millis := millis
  errors := rejections reading orders

/-- How a batch goes depends only on what becomes of its orders. -/
theorem outcome_congr {reading' : Order → Except Failure Document} {orders : List Order}
    (h : ∀ o ∈ orders, reading o = reading' o) (millis : Float) :
    outcome reading millis orders = outcome reading' millis orders := by
  have documents : documents reading orders = documents reading' orders :=
    List.filterMap_congr fun o ho => congrArg Except.toOption (h o ho)
  have rejections : rejections reading orders = rejections reading' orders :=
    List.filterMap_congr fun o ho => by rw [h o ho]
  rw [outcome, outcome, documents, rejections]

theorem foldl_tally_start (millis : Float) (orders : List Order) :
    orders.foldl (tally reading) (.start millis) = outcome reading millis orders := by
  rw [foldl_tally]
  simp [BatchResult.start, outcome]

end Reading

/-- The entries are the documents that can be stored. -/
theorem documents_toEntry (orders : List Order) :
    documents toEntry orders = (documents toDocument orders).filter Document.isWritable := by
  induction orders with
  | nil => rfl
  | cons o orders ih =>
    rw [documents_cons, documents_cons, List.filter_append, ih]
    congr 1
    cases h : o.toDocument with
    | error e =>
      rw [toEntry_of_rejected h]
      rfl
    | ok d =>
      cases writable : d.isWritable with
      | true =>
        rw [toEntry_eq_ok.2 ⟨h, writable⟩]
        exact (List.filter_eq_self.2 (List.forall_mem_singleton.2 writable)).symm
      | false =>
        rw [toEntry_of_not_writable h writable]
        simp [writable]

/-- Whether every document of a batch can be stored. -/
def Storable (orders : List Order) : Prop :=
  ∀ d ∈ documents toDocument orders, d.isWritable = true

section Storable

variable {orders : List Order}

theorem all_isWritable_iff :
    (documents toDocument orders).all Document.isWritable = true ↔ Storable orders :=
  List.all_eq_true

/-- Where every document can be stored, it makes no difference whether that is asked. -/
theorem Storable.toEntry_eq (h : Storable orders) (ho : o ∈ orders) : o.toEntry = o.toDocument := by
  cases hd : o.toDocument with
  | error e => exact toEntry_of_rejected hd
  | ok d => exact toEntry_eq_ok.2 ⟨hd, h d (mem_documents.2 ⟨o, ho, hd⟩)⟩

theorem Storable.documents_eq (h : Storable orders) :
    documents toEntry orders = documents toDocument orders := by
  rw [documents_toEntry, List.filter_eq_self.2 h]

theorem Storable.snapshot_eq (h : Storable orders) :
    Index.snapshot (documents toDocument orders) =
      .ok (.ofDocuments (documents toDocument orders)) := by
  rw [Index.snapshot_eq, if_pos (all_isWritable_iff.2 h)]

theorem snapshot_of_not_storable (h : ¬Storable orders) :
    Index.snapshot (documents toDocument orders) = .error .tooManyDigits := by
  rw [Index.snapshot_eq, if_neg (mt all_isWritable_iff.1 h)]

/-- A snapshot of the documents of a batch can be made if all of them can be stored. -/
theorem exists_snapshot_iff :
    (∃ i, Index.snapshot (documents toDocument orders) = .ok i) ↔ Storable orders := by
  constructor
  · rintro ⟨i, made⟩
    by_contra unstorable
    rw [snapshot_of_not_storable unstorable] at made
    contradiction
  · intro storable
    exact ⟨_, storable.snapshot_eq⟩

end Storable

/-- Of the orders that do not go into the index some are rejected already when they are mapped, and
the documents of the others cannot be stored. -/
theorem length_rejections_toEntry (orders : List Order) :
    (rejections toEntry orders).length =
      (rejections toDocument orders).length +
        (documents toDocument orders).countP fun d => !d.isWritable := by
  have entered := length_documents_add_rejections toEntry orders
  have mapped := length_documents_add_rejections toDocument orders
  have parts := (documents toDocument orders).length_eq_countP_add_countP Document.isWritable
  rw [documents_toEntry, ← List.countP_eq_length_filter] at entered
  simp only [Bool.not_eq_true, Bool.decide_eq_false] at parts
  omega

/-! ### Indexing and mapping a batch -/

theorem indexStep_eq (acc : Index × BatchResult) (o : Order) :
    indexStep acc o =
      match o.toEntry with
      | .ok d => (acc.1.upsert d, acc.2.success)
      | .error e => (acc.1, acc.2.failure e.message) := by
  rw [indexStep, enter_eq]
  cases o.toEntry <;> rfl

theorem indexAll_fst (index : Index) (millis : Float) (orders : List Order) :
    (indexAll index millis orders).1 = index.upsertAll (documents toEntry orders) := by
  suffices h : ∀ acc : Index × BatchResult,
      (orders.foldl indexStep acc).1 = acc.1.upsertAll (documents toEntry orders) from h _
  induction orders with
  | nil => exact fun _ => rfl
  | cons o orders ih =>
    intro acc
    rw [List.foldl_cons, ih, documents_cons, indexStep_eq]
    cases o.toEntry <;> rfl

theorem mapAll_fst (millis : Float) (orders : List Order) :
    (mapAll millis orders).1 = documents toDocument orders := by
  suffices h : ∀ acc : List Document × BatchResult,
      (orders.foldl mapStep acc).1 = acc.1 ++ documents toDocument orders from h _
  induction orders with
  | nil => exact fun acc => (List.append_nil acc.1).symm
  | cons o orders ih =>
    intro acc
    rw [List.foldl_cons, ih, documents_cons]
    unfold mapStep
    cases o.toDocument <;> simp

theorem indexStep_snd (acc : Index × BatchResult) (o : Order) :
    (indexStep acc o).2 = tally toEntry acc.2 o := by
  rw [indexStep_eq, tally]
  cases o.toEntry <;> rfl

theorem mapStep_snd (acc : List Document × BatchResult) (o : Order) :
    (mapStep acc o).2 = tally toDocument acc.2 o := by
  unfold mapStep tally
  cases o.toDocument <;> rfl

theorem indexAll_snd (index : Index) (millis : Float) (orders : List Order) :
    (indexAll index millis orders).2 = outcome toEntry millis orders := by
  rw [indexAll, ← List.foldl_hom Prod.snd fun acc o => (indexStep_snd acc o).symm]
  exact foldl_tally_start millis orders

theorem mapAll_snd (millis : Float) (orders : List Order) :
    (mapAll millis orders).2 = outcome toDocument millis orders := by
  rw [mapAll, ← List.foldl_hom Prod.snd fun acc o => (mapStep_snd acc o).symm]
  exact foldl_tally_start millis orders

/-- **Indexing a batch and making a snapshot of it.**  Indexing inserts the documents of the orders
that can be mapped, one after the other, where a document that cannot be stored leaves the index as
it is; every order is counted once, and every rejection is worded.  A snapshot of the documents of
the batch can be made if and only if all of them can be stored.  If so it is what indexing makes of
an empty index, and mapping gives the same result as indexing.  If not there is no snapshot,
although mapping has counted as indexed the orders that indexing counts as rejected. -/
theorem indexAll_agrees (index : Index) (millis other : Float) (orders : List Order) :
    (mapAll other orders).1 = documents toDocument orders ∧
      (indexAll index millis orders).1 = (documents toDocument orders).foldl Index.attempt index ∧
      (indexAll index millis orders).2.total = orders.length ∧
      (indexAll index millis orders).2.indexed + (indexAll index millis orders).2.failed =
        orders.length ∧
      (indexAll index millis orders).2.failed = (rejections toEntry orders).length ∧
      (indexAll index millis orders).2.errors = rejections toEntry orders ∧
      (∀ (o : Order) (e : Failure), o.toEntry = .error e →
        ∃ id reason, e = .orderRejected id reason) ∧
      ((∃ i, Index.snapshot (mapAll other orders).1 = .ok i) ↔
        ∀ d ∈ documents toDocument orders, d.isWritable = true) ∧
      (∀ i, Index.snapshot (mapAll other orders).1 = .ok i →
        (indexAll .empty millis orders).1 = i ∧
          { (indexAll .empty millis orders).2 with millis := other } = (mapAll other orders).2) ∧
      ∀ e, Index.snapshot (mapAll other orders).1 = .error e →
        e = .tooManyDigits ∧
          (indexAll .empty millis orders).2.failed =
            (mapAll other orders).2.failed +
              (documents toDocument orders).countP (fun d => !d.isWritable) ∧
          (mapAll other orders).2.failed < (indexAll .empty millis orders).2.failed := by
  rw [indexAll_fst, indexAll_fst, indexAll_snd, indexAll_snd, mapAll_fst, mapAll_snd,
    Index.foldl_attempt, ← documents_toEntry]
  refine ⟨rfl, rfl, rfl, length_documents_add_rejections toEntry orders, rfl, rfl, ?_,
    exists_snapshot_iff, ?_, ?_⟩
  · intro o e h
    exact rejected_of_toEntry h
  · intro i made
    have storable : Storable orders := exists_snapshot_iff.1 ⟨i, made⟩
    rw [storable.snapshot_eq, Except.ok.injEq] at made
    rw [storable.documents_eq, outcome_congr fun o ho => storable.toEntry_eq ho]
    exact ⟨made, rfl⟩
  · intro e fails
    have unstorable : ¬Storable orders := fun storable => by
      rw [storable.snapshot_eq] at fails
      contradiction
    rw [snapshot_of_not_storable unstorable, Except.error.injEq] at fails
    have more := length_rejections_toEntry orders
    have some : 0 < (documents toDocument orders).countP fun d => !d.isWritable := by
      unfold Storable at unstorable
      push Not at unstorable
      obtain ⟨d, hd, unwritable⟩ := unstorable
      exact List.countP_pos_iff.2 ⟨d, hd, by simpa using unwritable⟩
    refine ⟨fails.symm, more, ?_⟩
    show (rejections toDocument orders).length < (rejections toEntry orders).length
    omega

/-! ### A street without end

An order whose street is a number with one digit too many. -/

/-- The order. -/
def endless : Order := .ofAttributes [("id", .str "1"),
  ("shipping_address", .obj [("street", .int (Number.tenTo Datum.digitLimit))])]

theorem all_isWritable_endless :
    (documents toDocument [endless]).all Document.isWritable = false := by
  decide +kernel

theorem not_storable_endless : ¬Storable [endless] := by
  rw [← all_isWritable_iff, all_isWritable_endless]
  exact Bool.false_ne_true

theorem documents_toEntry_endless : documents toEntry [endless] = [] := by
  decide +kernel

/-- Mapping counts the order as indexed, but there is no snapshot of its document; indexing counts
it as rejected. -/
theorem not_indexAll_agrees :
    (mapAll 0 [endless]).2.indexed = 1 ∧
      Index.snapshot (mapAll 0 [endless]).1 = .error .tooManyDigits ∧
      (indexAll .empty 0 [endless]).2.indexed = 0 ∧ (indexAll .empty 0 [endless]).2.failed = 1 ∧
      (indexAll .empty 0 [endless]).2.errors = ["Failed to index order 1: " ++
        "Exceeds the limit (4300 digits) for integer string conversion; " ++
        "use sys.set_int_max_str_digits() to increase the limit"] ∧
      (indexAll .empty 0 [endless]).1.ids = [] := by
  refine ⟨by decide +kernel, ?_, by decide +kernel, by decide +kernel, by decide +kernel,
    by decide +kernel⟩
  rw [mapAll_fst]
  exact snapshot_of_not_storable not_storable_endless

end OrderRetrieval.Order

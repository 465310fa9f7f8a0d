import OrderRetrieval.Document.SearchableText
import OrderRetrieval.Failure

/-!
# The index

The documents that searches see, one for each id, in the order in which the ids came in.  Whatever
is put into the index gets its searchable text built anew, and what has a text that cannot be
written is refused.
-/

namespace OrderRetrieval

/-- The documents that searches see. -/
structure Index where
  documents : List Document
  ids_nodup : (documents.map Document.id).Nodup

namespace Index

/-- An index without documents. -/
def empty : Index := ⟨[], List.nodup_nil⟩

/-- The ids of the documents, in order. -/
def ids (i : Index) : List String := i.documents.map Document.id

/-- The number of documents. -/
def size (i : Index) : Nat := i.documents.length

/-- The document with that id. -/
def get? (i : Index) (id : String) : Option Document := i.documents.find? fun d => d.id == id

/-- Whether there is a document with that id. -/
def contains (i : Index) (id : String) : Bool := (i.get? id).isSome

/-- Put a document in the place of the one with its id, or at the end. -/
def place (d : Document) : List Document → List Document
  | [] => [d]
  | e :: es => if e.id = d.id then d :: es else e :: place d es

theorem map_id_place (d : Document) (es : List Document) :
    (place d es).map Document.id =
      if d.id ∈ es.map Document.id then es.map Document.id else es.map Document.id ++ [d.id] := by
  induction es with
  | nil => simp [place]
  | cons e es ih =>
    by_cases h : e.id = d.id
    · simp [place, h]
    · have h' : ¬d.id = e.id := fun k => h k.symm
      simp only [place, if_neg h, List.map_cons, ih, List.mem_cons, h', false_or]
      split <;> simp

theorem nodup_place {d : Document} {es : List Document} (h : (es.map Document.id).Nodup) :
    ((place d es).map Document.id).Nodup := by
  rw [map_id_place]
  split
  · exact h
  · next hd =>
    refine List.nodup_append.2 ⟨h, by simp, fun a ha b hb e => hd ?_⟩
    rw [← List.mem_singleton.1 hb, ← e]
    exact ha

/-- Insert a document whose text can be written, or put it in the place of the one with its id. -/
def upsert (i : Index) (d : Document) : Index :=
  ⟨place d.prepared i.documents, nodup_place i.ids_nodup⟩

/-- Take out the document with that id. -/
def delete (i : Index) (id : String) : Index :=
  ⟨i.documents.filter fun d => d.id != id,
    i.ids_nodup.sublist (List.filter_sublist.map Document.id)⟩

/-- Insert a document if its text can be written. -/
def store (i : Index) (d : Document) : Except Failure Index :=
  if d.isWritable then .ok (i.upsert d) else .error .tooManyDigits

/-- Insert documents one after the other. -/
def upsertAll (i : Index) (ds : List Document) : Index := ds.foldl upsert i

/-- The index that holds just those documents; of several with one id the last, in the place of the
first. -/
def ofDocuments (ds : List Document) : Index := empty.upsertAll ds

/-- The index that holds just those documents, if the texts of all of them can be written. -/
def snapshot (ds : List Document) : Except Failure Index := ds.foldlM store empty

/-- The documents that are kept, in their order. -/
def retain (i : Index) (keep : String → Bool) : Index :=
  ⟨i.documents.filter fun d => keep d.id,
    i.ids_nodup.sublist (List.filter_sublist.map Document.id)⟩

/-- Take out the document with an id and count it, unless the id is one of those kept. -/
def sweepOne (kept : List String) (swept : Index × Nat) (id : String) : Index × Nat :=
  if !kept.contains id && swept.1.contains id then (swept.1.delete id, swept.2 + 1) else swept

/-- Walk over the ids and take out every document whose id is not one of those kept; how many were
taken out. -/
def sweep (i : Index) (kept : List String) : Index × Nat := i.ids.foldl (sweepOne kept) (i, 0)

/-- The index copied document by document, which gives up the room of those taken out. -/
def compact (i : Index) : Index := i.retain fun _ => true

/-- A copy holds what the index held. -/
@[simp] theorem compact_eq (i : Index) : i.compact = i := by
  cases i
  simp [compact, retain]

@[simp] theorem documents_empty : empty.documents = [] := rfl

@[simp] theorem ids_upsert (i : Index) (d : Document) :
    (i.upsert d).ids = if d.id ∈ i.ids then i.ids else i.ids ++ [d.id] := by
  simp [ids, upsert, map_id_place]

end Index

end OrderRetrieval

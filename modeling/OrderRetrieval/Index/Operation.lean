import OrderRetrieval.Index.Basic

/-!
# Operations on the index

The ways in which the index is written from outside, each with what it answers.
-/

namespace OrderRetrieval.Index

/-- A way to write the index. -/
inductive Operation where
  | upsert (d : Document)
  | delete (id : String)
  | replace (ds : List Document)
  | compact

/-- What an operation answers. -/
inductive Answer where
  /-- The document as it is held now. -/
  | stored (d : Document)
  /-- Whether there was a document to take out. -/
  | removed (wasThere : Bool)
  /-- How many documents are held now. -/
  | count (n : Nat)
  /-- Why nothing was done. -/
  | refused (e : Failure)

/-- Carry out an operation.  One that is refused leaves the index as it was. -/
def perform (i : Index) : Operation → Answer × Index
  | .upsert d => match i.store d with
    | .ok j => (.stored d.prepared, j)
    | .error e => (.refused e, i)
  | .delete id => (.removed (i.contains id), i.delete id)
  | .replace ds => match snapshot ds with
    | .ok j => (.count j.size, j)
    | .error e => (.refused e, i)
  | .compact => (.count i.compact.size, i.compact)

/-- Carry out operations one after the other. -/
def performAll (i : Index) : List Operation → List Answer × Index
  | [] => ([], i)
  | op :: ops =>
    let (answer, i) := i.perform op
    let (answers, i) := i.performAll ops
    (answer :: answers, i)

end OrderRetrieval.Index

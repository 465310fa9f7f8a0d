import OrderRetrieval.Document.Value

/-!
# Facets

A facet counts how many documents have each value of a field.  Values are listed by falling count,
equal counts in the order in which the values were first met.
-/

namespace OrderRetrieval

/-- Whether two values are counted as one. -/
def Value.sameKey : Value → Value → Bool
  | .missing, .missing => true
  | .text s, .text t => s == t
  | .amount x, .amount y => Double.eq x y
  | .moment m, .moment n => m.micros == n.micros
  | _, _ => false

namespace Facet

/-- Values with their counts, in the order in which they were first met. -/
abbrev Counts := List (Value × Nat)

/-- Count one more value. -/
def Counts.add (v : Value) : Counts → Counts
  | [] => [(v, 1)]
  | (w, n) :: rest => if w.sameKey v then (w, n + 1) :: rest else (w, n) :: Counts.add v rest

/-- The counts of several values. -/
def Counts.ofValues (vs : List Value) : Counts := vs.foldl (fun counts v => counts.add v) []

/-- Counts by falling number, equal ones in the order given. -/
def Counts.ordered (counts : Counts) : Counts := counts.mergeSort fun a b => b.2 ≤ a.2

/-- Counts the values of one field. -/
structure Builder where
  field : Field
  counts : Counts

namespace Builder

/-- Nothing counted yet. -/
def start (f : Field) : Builder := ⟨f, []⟩

/-- Count the value that a document has in the field. -/
def add (b : Builder) (d : Document) : Except Failure Builder :=
  (d.key b.field).map fun v => { b with counts := b.counts.add v }

/-- Count a document in all fields. -/
def addAll (bs : List Builder) (d : Document) : Except Failure (List Builder) :=
  bs.mapM fun b => b.add d

/-- The field with its facet. -/
def build (b : Builder) : Field × Counts := (b.field, b.counts.ordered)

end Builder

/-- Enter the facet of a field, in place of one that the field has already. -/
def enter (entry : Field × Counts) : List (Field × Counts) → List (Field × Counts)
  | [] => [entry]
  | old :: rest => if old.1 = entry.1 then entry :: rest else old :: enter entry rest

/-- Facets by field, the last one of each. -/
def byField (entries : List (Field × Counts)) : List (Field × Counts) :=
  entries.foldl (fun facets entry => enter entry facets) []

/-- The facets of some fields over some documents, one for each different field.  The documents come
one after the other, and each is counted in all fields before the next one comes. -/
def ofFields (fs : List Field) (ds : List Document) : Except Failure (List (Field × Counts)) :=
  (ds.foldlM Builder.addAll (fs.map Builder.start)).map fun bs => byField (bs.map Builder.build)

/-- The fields of some names; the first name that is no field's is refused. -/
def resolve (names : List Datum) : Except Failure (List Field) :=
  names.mapM fun name => (Field.resolve name).mapError .ofFault

end Facet

end OrderRetrieval

import OrderRetrieval.Document.Value

/-!
# Groups of documents

Documents are grouped by a status, or by the day of a date, with the number of documents and the sum
of their amounts in each group.  Groups stand in the order in which they were first met.
-/

namespace OrderRetrieval

/-- The documents with one value of a field. -/
structure Bucket where
  value : Option String
  count : Nat
  amountSum : Float

namespace Bucket

/-- What an amount adds to a sum; zeros of either sign add zero. -/
def contribution (x : Float) : Float := if Double.eq x 0 then 0 else x

/-- Put a document with that value and amount into its bucket. -/
def add (value : Option String) (amount : Float) : List Bucket → List Bucket
  | [] => [⟨value, 1, 0 + contribution amount⟩]
  | b :: bs =>
    if b.value = value then
      { b with count := b.count + 1, amountSum := b.amountSum + contribution amount } :: bs
    else b :: add value amount bs

end Bucket

/-- Whether documents can be grouped by fields of a kind. -/
def FieldKind.isGroupable : FieldKind → Bool
  | enumeration | date => true
  | _ => false

/-- The text by which a document is grouped: a status, or the day of a date. -/
def Value.groupText? : Value → Option String
  | text s => some s
  | moment m => some m.date.isoText
  | _ => none

/-- Put documents into buckets by their values. -/
def bucketsOf (entries : List (Option String × Float)) : List Bucket :=
  entries.foldl (fun bs (value, amount) => Bucket.add value amount bs) []

/-- What a document contributes to its group. -/
def groupEntry (f : Field) (d : Document) : Except Failure (Option String × Float) :=
  (d.value f).map fun v => (v.groupText?, d.totalAmount)

/-- Group documents by a named field. -/
def groupBy (name : Datum) (ds : List Document) : Except Failure (List Bucket) :=
  match Field.resolve name with
  | .error fault => .error (.ofFault fault)
  | .ok f =>
    if f.kind.isGroupable then
      (ds.mapM (groupEntry f)).map bucketsOf
    else .error (.ofFault (.unsupportedField f.name))

end OrderRetrieval

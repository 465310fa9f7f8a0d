import OrderRetrieval.Document.Value
import OrderRetrieval.Matching.EditDistance
import OrderRetrieval.Query.Basic
import OrderRetrieval.Text.Basic
import OrderRetrieval.Text.Blank
import OrderRetrieval.Text.Case

/-!
# Text search

The words of a query are looked for in the texts of some fields.  Every pair of a word and a text
that match earns points, and the documents with at least one such pair are kept, those with most
points first.
-/

namespace OrderRetrieval

/-- The words of a query in lower case. -/
def queryWords (s : String) : List (List Char) := Text.words (Text.lowerChars s.toList)

/-- The words of a query that may have no text. -/
def queryWords? (s : Option String) : List (List Char) := (s.map queryWords).getD []

/-- When a word matches a text. -/
inductive Closeness where
  /-- The word occurs in the text. -/
  | contained
  /-- The distance of the word from the whole text is small enough for the length of the longer. -/
  | similar (isClose : (distance longest : Nat) → Bool)

/-- Words that are at least that similar to the whole text match. -/
def Closeness.ofThreshold (threshold : Float) : Closeness :=
  similar fun distance longest => Double.le threshold (Matching.agreement distance longest)

/-- The points for a pair that matches: a word that is the whole text, that begins it, or neither.
-/
def pairPoints (word text : List Char) : Nat :=
  if text = word then 10 else if word.isPrefixOf text then 5 else 2

/-- Whether a word matches a text. -/
def Closeness.matches (c : Closeness) (word text : List Char) : Bool :=
  match c with
  | contained => Text.occursIn word text
  | similar isClose =>
    isClose (Matching.editDistance word text) (Matching.longerLength word text)

/-- A text search: the fields in which it looks and when a word matches. -/
structure Matcher where
  fields : List Field
  closeness : Closeness

namespace Matcher

/-- The search in the named fields, or in the usual ones if none is named. -/
def ofNames (names : Option (List String)) (closeness : Closeness) : Except QueryFault Matcher :=
  let names := match names with
    | none | some [] => defaultSearchFields
    | some names => names
  (names.mapM fun name => Field.resolve (.str name)).map (⟨·, closeness⟩)

/-- The points of the pairs that match. -/
def points (c : Closeness) (words texts : List (List Char)) : List Nat :=
  words.flatMap fun word => (texts.filter (c.matches word)).map (pairPoints word)

/-- The lower-case texts of the fields in which the search looks. -/
def texts (m : Matcher) (d : Document) : Except Failure (List (List Char)) :=
  m.fields.mapM fun f => (d.textValue f).map fun s => Text.lowerChars s.toList

/-- The score of a document, unless no pair matches. -/
def score (m : Matcher) (words : List (List Char)) (d : Document) : Except Failure (Option Nat) :=
  (m.texts d).map fun texts =>
    match points m.closeness words texts with
    | [] => none
    | ps => some (ps.foldl Nat.add 0)

/-- The documents with a score, in the order given. -/
def scored (m : Matcher) (words : List (List Char)) :
    List Document → Except Failure (List (Document × Nat))
  | [] => .ok []
  | d :: ds => do
    let s ← m.score words d
    let rest ← m.scored words ds
    .ok (match s with
      | some n => (d, n) :: rest
      | none => rest)

/-- The documents that match, by falling score, equal scores in the order given.  Without words
every document matches and has no points. -/
def rank (m : Matcher) (words : List (List Char)) (ds : List Document) :
    Except Failure (List (Document × Nat)) :=
  if words.isEmpty then .ok (ds.map (·, 0))
  else (m.scored words ds).map fun hits => hits.mergeSort fun a b => b.2 ≤ a.2

end Matcher

end OrderRetrieval

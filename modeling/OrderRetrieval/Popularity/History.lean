import OrderRetrieval.Matching.Rank
import OrderRetrieval.Popularity.Shared
import OrderRetrieval.Popularity.Tally
import OrderRetrieval.Reply
import OrderRetrieval.Settings

/-!
# The history of query terms

Every service counts the terms of the queries it answers, and also counts them in the shared store
if there is one.  What is popular is read from the shared store then, and from the service's own
tally otherwise.
-/

namespace OrderRetrieval

/-- The terms counted so far. -/
structure History where
  tally : Tally
  shared : Option SharedStore

namespace History

/-- Nothing counted yet. -/
def start (shared : Option SharedStore) : History := ⟨[], shared⟩

/-- Whether counts are shared. -/
def isShared (h : History) : Bool := h.shared.isSome

/-- The terms of a query that count: its words of at least the length set. -/
def terms (settings : Settings) (text : Option String) : List String :=
  ((queryWords? text).filter fun w => settings.minTermLength.le (.whole w.length)).map String.ofList

/-- Do something to the shared store, if there is one. -/
def onShared (h : History) (f : SharedStore → SharedStore × List Notice) :
    History × List Notice :=
  match h.shared with
  | none => (h, [])
  | some s =>
    let (s, notices) := f s
    ({ h with shared := some s }, notices)

/-- Keep no more terms in the tally than the history may hold. -/
def trimTally (settings : Settings) (h : History) : Reply History Unit :=
  match h.tally.trim settings.historySize with
  | .ok tally => .answer { h with tally } ()
  | .error e => .refusal h e

/-- Keep no more terms than the history may hold, both here and in the shared store. -/
def trim (settings : Settings) (h : History) : Reply History Unit :=
  (h.trimTally settings).bind fun _ h =>
    let (h, notices) := h.onShared fun s => (s.trim settings.historySize).2
    ⟨.ok (), h, notices⟩

/-- Count the terms of a query in the shared store and trim it. -/
def recordShared (settings : Settings) (terms : List String) (s : SharedStore) :
    SharedStore × List Notice :=
  let (s, counting) := s.addTerms terms
  let (_, s, trimming) := s.trim settings.historySize
  (s, counting ++ trimming)

/-- Count the terms of a query; the terms counted. -/
def record (settings : Settings) (text : Option String) (h : History) :
    Reply History (List String) :=
  match terms settings text with
  | [] => .answer h []
  | counted =>
    (trimTally settings { h with tally := h.tally.addAll counted }).bind fun _ h =>
      let (h, notices) := h.onShared (recordShared settings counted)
      ⟨.ok counted, h, notices⟩

/-- The most popular terms with their counts, highest first. -/
def popular (h : History) (limit : Option Quantity) :
    Except Failure (List (String × Int)) × List Notice :=
  match h.shared with
  | some s =>
    let (terms, notices) := s.topTerms limit
    (.ok terms, notices)
  | none => ((h.tally.mostCommon limit).map fun terms =>
      terms.map fun (term, n) => (term, (n : Int)), [])

end History

end OrderRetrieval

import OrderRetrieval.Index.Basic
import OrderRetrieval.Popularity.History

/-!
# Suggestions

A query in the making is completed from the popular terms and from the order numbers in the index
that contain it.  Suggestions with higher scores come first.
-/

namespace OrderRetrieval

/-- Where a suggestion comes from. -/
inductive SuggestionSource where
  | popularTerm
  | orderNumber
deriving DecidableEq, Repr

/-- The name of a source of suggestions. -/
def SuggestionSource.name : SuggestionSource → String
  | popularTerm => "popular_term"
  | orderNumber => "order_number"

/-- A completion of a query.

The score is a count.  Written as a double, as suggestions are handed out, it is the same number: a
count from the shared store is the whole part of a double, and one kept here grew by one with each
term recorded and stays far below 2^53. -/
structure Suggestion where
  text : String
  source : SuggestionSource
  score : Int
deriving DecidableEq, Repr

namespace Suggestion

/-- What is looked for: the query without blanks around it, in lower case. -/
def partialWord (text : String) : List Char :=
  Text.lowerChars (Text.trim Text.isBlank text.toList)

/-- The popular terms that contain the text and differ from it. -/
def fromTerms (part : List Char) (terms : List (String × Int)) : List Suggestion :=
  (terms.filter fun (term, _) => Text.occursIn part term.toList && term.toList != part).map
    fun (term, count) => ⟨term, .popularTerm, count⟩

/-- The order numbers that contain the text. -/
def fromOrders (part : List Char) (ds : List Document) : List Suggestion :=
  (ds.filter fun d => !d.orderNumber.isEmpty &&
      Text.occursIn part (Text.lowerChars d.orderNumber.toList)).map
    fun d => ⟨d.orderNumber, .orderNumber, 1⟩

/-- Suggestions by falling score, equal scores in the order given. -/
def ordered (ss : List Suggestion) : List Suggestion := ss.mergeSort fun a b => b.score ≤ a.score

/-- Suggestions for a query in the making; none if it is too short. -/
def forPartial (settings : Settings) (index : Index) (history : History) (text : Option String)
    (limit : Quantity) : Except Failure (List Suggestion) × List Notice :=
  match text with
  | none => (.ok [], [])
  | some text =>
    let part := partialWord text
    if text.isEmpty || limit.le (.whole 0) ||
        (Quantity.whole part.length).lt settings.suggestionMinLength then (.ok [], [])
    else
      let (popular, notices) := history.popular none
      let suggestions := do
        let terms ← popular
        let count ← limit.toCount
        .ok ((ordered (fromTerms part terms ++ fromOrders part index.documents)).take count.toNat)
      (suggestions, notices)

end Suggestion

end OrderRetrieval

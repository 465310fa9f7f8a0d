import OrderRetrieval.Matching.Rank

/-!
# Highlighting

In a text the words of a query are marked.  The text is read from the left; where a word matches
letter by letter without regard to case, the longest such stretch is enclosed in tags and reading
goes on behind it.
-/

namespace OrderRetrieval.Matching

/-- Whether a word matches the beginning of a text, letter by letter. -/
def matchesHere : List Char → List Char → Bool
  | [], _ => true
  | _ :: _, [] => false
  | w :: ws, c :: cs => Text.sameLetter w c && matchesHere ws cs

/-- The length of the longest word that matches the beginning of a text, if one does. -/
def stretch? (words : List (List Char)) (cs : List Char) : Option Nat :=
  ((words.filter fun w => !w.isEmpty && matchesHere w cs).map List.length).max?

/-- What opens a marked stretch. -/
def openTag : List Char := "<mark>".toList

/-- What closes a marked stretch. -/
def closeTag : List Char := "</mark>".toList

/-- Mark a text of which the next `inside` characters belong to a stretch that is already open. -/
def markFrom (words : List (List Char)) (inside : Nat) : List Char → List Char
  | [] => []
  | c :: cs =>
    match inside with
    | n + 1 => c :: (if n = 0 then closeTag else []) ++ markFrom words n cs
    | 0 =>
      match stretch? words (c :: cs) with
      | none => c :: markFrom words 0 cs
      | some n => openTag ++ c :: (if n = 1 then closeTag else []) ++ markFrom words (n - 1) cs

/-- Mark the words in a text. -/
def mark (words : List (List Char)) (cs : List Char) : List Char := markFrom words 0 cs

end OrderRetrieval.Matching

namespace OrderRetrieval.Document

/-- The texts that are highlighted, with the names under which they are reported. -/
def highlightTexts (d : Document) : List (String × String) :=
  [("order_number", d.orderNumber),
    ("customer_name", (d.customerText "name" d.customerName).searchText),
    ("notes", d.notes)]

/-- The words that a text contains. -/
def wordsIn (words : List (List Char)) (s : String) : List (List Char) :=
  words.filter fun w => Text.occursIn w (Text.lowerChars s.toList)

/-- The texts that contain a word, with every word that they contain marked. -/
def highlights (d : Document) (words : List (List Char)) : List (String × String) :=
  d.highlightTexts.filterMap fun (name, s) =>
    let present := wordsIn words s
    if s.isEmpty || present.isEmpty then none
    else some (name, String.ofList (Matching.mark present s.toList))

end OrderRetrieval.Document

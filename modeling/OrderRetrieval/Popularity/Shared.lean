import OrderRetrieval.Coercion
import OrderRetrieval.Notice

/-!
# The shared store of popular terms

Services that run side by side share a sorted set: terms in the order of their scores, equal scores
in the order of the terms.  Scores are doubles and are read back as whole numbers.  Ranks of a
sorted set count from 0 at the low end; negative ones count back from the high end.  A command that
fails, or asks for what cannot be done, changes nothing and gets no answer, which is noted.
-/

namespace OrderRetrieval

/-- Members with their scores, from the lowest score to the highest. -/
abbrev SortedSet := List (String × Float)

namespace SortedSet

/-- Whether the first of two entries stands before the second. -/
def before (a b : String × Float) : Bool :=
  Double.lt a.2 b.2 || (!Double.lt b.2 a.2 && a.1 < b.1)

/-- Put an entry in its place. -/
def insert (e : String × Float) : SortedSet → SortedSet
  | [] => [e]
  | x :: xs => if before e x then e :: x :: xs else x :: insert e xs

/-- The score of a member. -/
def score? (s : SortedSet) (term : String) : Option Float := s.lookup term

/-- Without the member. -/
def erase (s : SortedSet) (term : String) : SortedSet := s.filter fun e => e.1 != term

/-- Add to the score of a member, which has to be none before. -/
def increase (s : SortedSet) (term : String) (amount : Float) : SortedSet :=
  insert (term, (s.score? term).getD 0 + amount) (s.erase term)

/-- The positions that a range of ranks covers, both ends included: how many to leave out before
it, and how many it takes. -/
def window (size : Nat) (start stop : Int) : Nat × Nat :=
  let start := (if start < 0 then size + start else start).toNat
  let stop := if stop < 0 then size + stop else stop
  (start, (stop + 1 - start).toNat)

/-- The entries in a range of ranks. -/
def range (s : SortedSet) (start stop : Int) : SortedSet :=
  let (skipped, taken) := window s.length start stop
  (s.drop skipped).take taken

/-- The entries outside a range of ranks. -/
def withoutRange (s : SortedSet) (start stop : Int) : SortedSet :=
  let (skipped, taken) := window s.length start stop
  s.take skipped ++ s.drop (skipped + taken)

end SortedSet

/-- What the store may be asked to do. -/
inductive StoreCommand where
  /-- Add to the score of a term. -/
  | count (term : String)
  /-- Hand back the members in a range of ranks. -/
  | read
  /-- Drop the members in a range of ranks. -/
  | trim
deriving DecidableEq, Repr

/-- A member as a client hands it back: its text, or the bytes that spell it. -/
inductive RawTerm where
  | text (s : String)
  | bytes (b : ByteArray) (spells : b.IsValidUTF8)

/-- The text of a member that was handed back. -/
def RawTerm.decode : RawTerm → String
  | text s => s
  | bytes b spells => String.fromUTF8 b spells

/-- The shared store, whether its client hands members back as texts, and the reason why a command
fails while it does. -/
structure SharedStore where
  members : SortedSet
  handsTexts : Bool
  fault : StoreCommand → Option String

namespace SharedStore

/-- An empty store that does what it is asked to do. -/
def empty (handsTexts : Bool) : SharedStore := ⟨[], handsTexts, fun _ => none⟩

/-- A member as the client of the store hands it back. -/
def handBack (s : SharedStore) (term : String) : RawTerm :=
  if s.handsTexts then .text term else .bytes term.toByteArray term.isValidUTF8

/-- Both ways to hand members back keep the text. -/
@[simp] theorem decode_handBack (s : SharedStore) (term : String) :
    (s.handBack term).decode = term := by
  unfold handBack
  split <;> rfl

/-- How many terms are read back unless a request says otherwise. -/
def scanSize : Int := 1000

/-- Do something with the members, unless the command for it fails.  What keeps it from being done
is given in words. -/
def reach {α : Type} (s : SharedStore) (command : StoreCommand) (f : SortedSet → Except Failure α) :
    Except String α :=
  match s.fault command with
  | some reason => .error reason
  | none => (f s.members).mapError Failure.message

/-- Add to the popularity of a term a number or what spells one; whether that was possible. -/
def addTerm (s : SharedStore) (term : String) (amount : Datum) :
    Bool × SharedStore × List Notice :=
  match s.reach (.count term) fun members => amount.toDouble.map (members.increase term) with
  | .ok members => (true, { s with members }, [])
  | .error reason => (false, s, [.countingFailed term reason])

/-- Count several terms once each. -/
def addTerms (s : SharedStore) : List String → SharedStore × List Notice
  | [] => (s, [])
  | term :: terms =>
    let (_, s, first) := s.addTerm term (.int 1)
    let (s, rest) := s.addTerms terms
    (s, first ++ rest)

/-- The most popular terms with their counts, highest first. -/
def topTerms (s : SharedStore) (limit : Option Quantity) : List (String × Int) × List Notice :=
  let read (members : SortedSet) := do
    let limit ← (limit.getD (.whole scanSize)).toCount
    (SortedSet.range members.reverse 0 (limit - 1)).mapM fun (term, score) => do
      .ok ((s.handBack term).decode, ← Double.toWhole score)
  match s.reach .read read with
  | .ok terms => (terms, [])
  | .error reason => ([], [.readingFailed reason])

/-- Drop the least popular terms beyond the size; how many were dropped. -/
def trim (s : SharedStore) (size : Quantity) : Nat × SharedStore × List Notice :=
  let kept (members : SortedSet) := do
    .ok (members.withoutRange 0 (-((← size.toCount) + 1)))
  match s.reach .trim kept with
  | .ok members => (s.members.length - members.length, { s with members }, [])
  | .error reason => (0, s, [.trimmingFailed reason])

end SharedStore

end OrderRetrieval

import OrderRetrieval.Datum.Basic
import OrderRetrieval.Number.Notation
import OrderRetrieval.Text.Quoted

/-!
# Data in messages

A text stands in a message as it is, or as a quoted literal where the message shows a value; inside
a list or an object texts are always quoted.

A whole number with too many digits cannot be written.  `Datum.isWritable` tells of a value whether
it can; indexing asks for that.  The literals and texts here are given for every value, so a
statement about a message or a comparison of texts takes it that the values in it can be written,
and that they are not nested deeper than the stack allows.
-/

namespace OrderRetrieval.Datum

open Text (quoted)

/-! ### Values that can be written -/

/-- The number of digits that a whole number may have and still be written. -/
def digitLimit : Nat := 4300

mutual

/-- Whether the value can be written: no whole number in it has too many digits. -/
def isWritable : Datum → Bool
  | .int n => (Nat.toDigits 10 n.natAbs).length ≤ digitLimit
  | .arr items => areWritable items
  | .obj fields => haveWritable fields
  | _ => true

/-- Whether every item of a list can be written. -/
def areWritable : List Datum → Bool
  | [] => true
  | x :: xs => x.isWritable && areWritable xs

/-- Whether the value of every field of an object can be written. -/
def haveWritable : List (String × Datum) → Bool
  | [] => true
  | (_, x) :: xs => x.isWritable && haveWritable xs

end

theorem isWritable_null : isWritable .null = true := rfl

/-! ### How values are written -/

mutual

/-- The literal of a value, of which it is taken that it can be written. -/
def literal : Datum → String
  | .null => "None"
  | .bool b => if b then "True" else "False"
  | .int n => toString n
  | .float x => Number.display x
  | .str s => quoted s
  | .time t => t.literal
  | .arr items => "[" ++ literalItems items ++ "]"
  | .obj fields => "\x7b" ++ literalFields fields ++ "\x7d"

/-- The literals of the items of a list, with commas between. -/
def literalItems : List Datum → String
  | [] => ""
  | [x] => x.literal
  | x :: xs => x.literal ++ ", " ++ literalItems xs

/-- The names and literals of the fields of an object, with commas between. -/
def literalFields : List (String × Datum) → String
  | [] => ""
  | [(name, x)] => quoted name ++ ": " ++ x.literal
  | (name, x) :: xs => quoted name ++ ": " ++ x.literal ++ ", " ++ literalFields xs

end

/-- A timestamp as running text: date and time of day with a space between. -/
def timeText (t : Calendar.Timestamp) : String :=
  String.ofList (t.isoText.toList.map fun c => if c = 'T' then ' ' else c)

/-- The value as running text: a string as it is, another value as its literal, so it is taken that
the value can be written. -/
def text : Datum → String
  | .str s => s
  | .time t => timeText t
  | x => x.literal

@[simp] theorem text_str (s : String) : text (.str s) = s := by simp [text]

end OrderRetrieval.Datum

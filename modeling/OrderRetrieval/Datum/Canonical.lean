import OrderRetrieval.Datum.Basic
import OrderRetrieval.Number.Notation
import OrderRetrieval.Text.Basic

/-!
# The canonical text of a datum

The text of a value in a data-exchange format, with the fields of every object in the order of
their names.  Two objects with the same fields have the same canonical text, in whatever order the
fields were given.
-/

namespace OrderRetrieval.Datum

/-- One character inside a quoted text.  Quotes, backslashes and controls are escaped, all other
characters stand for themselves. -/
def escapeChar (c : Char) : List Char :=
  if c = '"' then ['\\', '"']
  else if c = '\\' then ['\\', '\\']
  else if c = '\n' then ['\\', 'n']
  else if c = '\r' then ['\\', 'r']
  else if c = '\t' then ['\\', 't']
  else if c = '\x08' then ['\\', 'b']
  else if c = '\x0c' then ['\\', 'f']
  else if c.toNat < 0x20 then '\\' :: 'u' :: Text.hexDigits 4 c.toNat
  else [c]

/-- A text in double quotes. -/
def quotedText (s : String) : List Char := '"' :: s.toList.flatMap escapeChar ++ ['"']

/-- Items with a comma and a space between. -/
def commaSeparated (items : List (List Char)) : List Char := [',', ' '].intercalate items

/-- Fields in the order of their names. -/
def byName (fields : List (String × List Char)) : List (String × List Char) :=
  fields.mergeSort fun a b => !(b.1 < a.1)

/-- The fields of an object whose values are written already. -/
def writeFields (fields : List (String × List Char)) : List Char :=
  '\x7b' :: commaSeparated ((byName fields).map fun (name, value) =>
    quotedText name ++ ':' :: ' ' :: value) ++ ['\x7d']

mutual

/-- The canonical text of a value, as characters. -/
def canonicalChars : Datum → List Char
  | .null => "null".toList
  | .bool b => if b then "true".toList else "false".toList
  | .int n => (toString n).toList
  | .float x => (Number.Layout.json.write x).toList
  | .str s => quotedText s
  | .time t => quotedText (t.isoText.map fun c => if c = 'T' then ' ' else c)
  | .arr items => '[' :: commaSeparated (canonicalItems items) ++ [']']
  | .obj fields => writeFields (canonicalFields fields)

/-- The canonical texts of the items of a list. -/
def canonicalItems : List Datum → List (List Char)
  | [] => []
  | x :: xs => x.canonicalChars :: canonicalItems xs

/-- The fields of an object with their canonical texts, in the order given. -/
def canonicalFields : List (String × Datum) → List (String × List Char)
  | [] => []
  | (name, x) :: xs => (name, x.canonicalChars) :: canonicalFields xs

end

/-- The canonical text of a value. -/
def canonical (x : Datum) : String := String.ofList x.canonicalChars

end OrderRetrieval.Datum

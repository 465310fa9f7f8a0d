import OrderRetrieval.Number.Rounding
import OrderRetrieval.Number.Shortest

/-!
# Written forms of numbers

`Layout` says how a shortest decimal is set: where positional notation ends and how the exponent
and the values that are no finite number are spelled.  `display` is the form of messages and
answers, `json` the form inside a serialized address.  `fixed` sets a number with a given number of
places.
-/

namespace OrderRetrieval.Number

/-- How a double is written. -/
structure Layout where
  /-- The least exponent of the leading digit in positional notation. -/
  least : Int
  /-- The greatest exponent of the leading digit in positional notation. -/
  greatest : Int
  /-- What follows the digits of a whole number in positional notation. -/
  wholeTail : String
  /-- What follows a digit that stands alone before an exponent. -/
  loneTail : String
  /-- What stands between the digits and the exponent. -/
  exponentMark : String
  /-- The least number of digits of an exponent. -/
  exponentWidth : Nat
  notANumber : String
  infinite : String

/-- Positional from `0.0001` to below `10 ^ 16`, whole numbers with one zero after the point. -/
def Layout.display : Layout := ⟨-4, 15, ".0", "", "e", 2, "nan", "inf"⟩

/-- As displayed, but for the values that are no finite number. -/
def Layout.json : Layout := { Layout.display with notANumber := "NaN", infinite := "Infinity" }

/-- The digits of a natural number. -/
def digits (n : Nat) : List Char := Nat.toDigits 10 n

/-- The digits of a natural number, filled with zeros to the width. -/
def padded (width n : Nat) : List Char :=
  List.replicate (width - (digits n).length) '0' ++ digits n

/-- The digits without zeros at the end. -/
def significant (ds : List Char) : List Char :=
  (ds.reverse.dropWhile (· = '0')).reverse

/-- Digits with the point after as many of them as `point` says, possibly none or more than all. -/
def Layout.positional (l : Layout) (ds : List Char) (point : Int) : String :=
  if point ≤ 0 then
    "0." ++ String.ofList (List.replicate (-point).toNat '0' ++ ds)
  else if ds.length ≤ point.toNat then
    String.ofList (ds ++ List.replicate (point.toNat - ds.length) '0') ++ l.wholeTail
  else
    String.ofList (ds.take point.toNat) ++ "." ++ String.ofList (ds.drop point.toNat)

/-- One digit, the point and the other digits, and the exponent with its sign. -/
def Layout.exponential (l : Layout) (ds : List Char) (exponent : Int) : String :=
  let lead := String.ofList (ds.take 1)
  let rest := if ds.length ≤ 1 then l.loneTail else "." ++ String.ofList (ds.drop 1)
  let sign := if exponent < 0 then "-" else "+"
  lead ++ rest ++ l.exponentMark ++ sign ++
    String.ofList (padded l.exponentWidth exponent.natAbs)

/-- A positive decimal. -/
def Layout.scientific (l : Layout) (d : Scientific) : String :=
  let all := digits d.digits
  let ds := significant all
  let point := (all.length : Int) + d.exponent
  if l.least ≤ point - 1 ∧ point - 1 ≤ l.greatest then l.positional ds point
  else l.exponential ds (point - 1)

/-- The written form of a double whose finite positive values become decimals by the given rule. -/
def Layout.writeAs (l : Layout) (decimal : Nat → Int → Scientific) (x : Float) : String :=
  match Double.view x with
  | .notANumber => l.notANumber
  | .infinite negative => (if negative then "-" else "") ++ l.infinite
  | .finite negative m e =>
    (if negative then "-" else "") ++
      if m = 0 then "0" ++ l.wholeTail else l.scientific (decimal m e)

/-- The written form of a double in the fewest digits. -/
def Layout.write (l : Layout) (x : Float) : String := l.writeAs shortest x

/-- The form of messages and answers. -/
def display (x : Float) : String := Layout.display.write x

/-- A double with the given number of places, a half going to the even neighbour. -/
def fixed (places : Nat) (x : Float) : String :=
  match Double.view x with
  | .notANumber => "nan"
  | .infinite negative => (if negative then "-" else "") ++ "inf"
  | .finite negative m e =>
    let scaled := nearest (m * twoTo e.toNat * tenTo places) (twoTo (-e).toNat)
    let ds := padded (places + 1) scaled
    let whole := String.ofList (ds.take (ds.length - places))
    (if negative then "-" else "") ++
      if places = 0 then whole else whole ++ "." ++ String.ofList (ds.drop (ds.length - places))

/-- How a column of texts spells doubles: positional from `0.0001` to below `10 ^ 15`, always with a
point. -/
def Layout.column : Layout := ⟨-4, 14, ".0", ".0", "e", 2, "NaN", "Inf"⟩

/-- The form of a double in a column of texts, in at most fifteen digits.  There is only one
zero. -/
def columnText (x : Float) : String :=
  Layout.column.writeAs (rounded 15) (if Double.eq x 0 then 0 else x)

end OrderRetrieval.Number

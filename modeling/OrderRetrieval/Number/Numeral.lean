import OrderRetrieval.Number.Double
import OrderRetrieval.Text.Basic
import OrderRetrieval.Text.Blank

/-!
# Numerals

A decimal numeral is an optional sign, digits with an optional point among them or at either end,
and an optional exponent.  `Numeral.read?` reads one and `Numeral.toDouble` is the double nearest to
it.  Around this stand three habits of writing: underscores between digits, the words for infinity
and for what is not a number, and the digits of other scripts.
-/

namespace OrderRetrieval.Number

/-- A decimal number `± digits * 10 ^ exponent`. -/
structure Numeral where
  negative : Bool
  digits : Nat
  exponent : Int
deriving DecidableEq, Repr

/-- The number that a row of ASCII digits spells. -/
def digitsValue (ds : List Char) : Nat :=
  ds.foldl (fun n c => 10 * n + (c.toNat - '0'.toNat)) 0

/-- The leading digits and what follows them. -/
def spanDigits (cs : List Char) : List Char × List Char :=
  (cs.takeWhile Text.isAsciiDigit, cs.dropWhile Text.isAsciiDigit)

/-- An optional sign, whether it is a minus, and what follows. -/
def splitSign : List Char → Bool × List Char
  | '-' :: cs => (true, cs)
  | '+' :: cs => (false, cs)
  | cs => (false, cs)

/-- The exponent that makes up the rest of a numeral: none at all, or a mark, a sign and digits. -/
def readExponent? : List Char → Option Int
  | [] => some 0
  | c :: cs =>
    if c = 'e' ∨ c = 'E' then
      let (negative, rest) := splitSign cs
      let (ds, tail) := spanDigits rest
      if ds.isEmpty || !tail.isEmpty then none
      else some (if negative then -(digitsValue ds : Int) else digitsValue ds)
    else none

/-- Read a numeral written in ASCII digits. -/
def Numeral.read? (cs : List Char) : Option Numeral :=
  let (negative, rest) := splitSign cs
  let (whole, rest) := spanDigits rest
  let (fraction, rest) := match rest with
    | '.' :: tail => spanDigits tail
    | _ => ([], rest)
  if whole.isEmpty && fraction.isEmpty then none
  else (readExponent? rest).map fun e =>
    ⟨negative, digitsValue (whole ++ fraction), e - fraction.length⟩

/-- The double nearest to a numeral.  Numerals far outside the range of doubles are settled by
their number of digits. -/
def Numeral.toDouble (n : Numeral) : Float :=
  let magnitude := ((Nat.toDigits 10 n.digits).length : Int) + n.exponent
  let size : Float :=
    if n.digits = 0 ∨ magnitude < -330 then 0
    else if 310 < magnitude then Float.ofScientific 1 false 400
    else Float.ofScientific n.digits (n.exponent < 0) n.exponent.natAbs
  if n.negative then -size else size

/-- Take out underscores, each of which has to stand between two digits. -/
def dropUnderscores? (afterDigit : Bool) : List Char → Option (List Char)
  | [] => some []
  | c :: cs =>
    if c = '_' then
      if afterDigit && cs.head?.any Text.isAsciiDigit then dropUnderscores? false cs else none
    else (dropUnderscores? (Text.isAsciiDigit c) cs).map (c :: ·)

/-- The values with a name of their own, in any mixture of cases. -/
def readNamed? (cs : List Char) : Option Float :=
  let (negative, rest) := splitSign cs
  let word := String.ofList (rest.map Char.toLower)
  if word = "inf" ∨ word = "infinity" then
    some (if negative then Float.ofBits 0xFFF0000000000000 else Float.ofBits 0x7FF0000000000000)
  else if word = "nan" then some (Float.ofBits 0x7FF8000000000000)
  else none

/-- Read a double from ASCII text without blanks around it or underscores in it. -/
def readBare? (cs : List Char) : Option Float :=
  (readNamed? cs).or ((Numeral.read? cs).map Numeral.toDouble)

/-- Read a double: white space around it does not count and digits of every script do. -/
def readDouble? (s : String) : Option Float :=
  let ascii := (Text.trim Text.isSpace s.toList).map fun c =>
    match Text.digitValue? c with
    | some d => Char.ofNat ('0'.toNat + d)
    | none => c
  (dropUnderscores? false ascii).bind readBare?

/-- Take out underscores, none of which may stand at an end or beside another. -/
def dropLoneUnderscores? (cs : List Char) : Option (List Char) :=
  if cs.head? = some '_' ∨ cs.getLast? = some '_' ∨ Text.occursIn ['_', '_'] cs then none
  else some (cs.filter (· ≠ '_'))

/-- Read a double in ASCII digits: either white space around it does not count, or underscores
inside it do not. -/
def readAsciiDouble? (s : String) : Option Float :=
  (readBare? (Text.trim Text.isSpace s.toList)).or ((dropLoneUnderscores? s.toList).bind readBare?)

/-- What a text says as a whole number. -/
inductive Whole where
  | number (n : Int)
  | tooLong
  | malformed
deriving DecidableEq, Repr

namespace Whole

/-- The digits after a row of zeros with underscores among them.  Of a row that nothing or a point
follows the last character stays. -/
def afterZeros? (last : Char) : List Char → Option (List Char)
  | [] => some [last]
  | c :: cs =>
    if c = '0' ∨ c = '_' then afterZeros? c cs
    else if Text.isAsciiDigit c then some (c :: cs)
    else if c = '.' then some (last :: c :: cs)
    else none

/-- A text that starts with a digit, without its leading zeros. -/
def dropZeros? : List Char → Option (List Char)
  | [] => none
  | c :: cs =>
    if c = '0' then afterZeros? c cs
    else if Text.isAsciiDigit c then some (c :: cs)
    else none

/-- Leave out a point with nothing but zeros after it, of which there has to be one. -/
def dropFraction (cs : List Char) : List Char :=
  let fraction := (cs.dropWhile (· ≠ '.')).drop 1
  if fraction.isEmpty || !fraction.all (· = '0') then cs else cs.takeWhile (· ≠ '.')

/-- The greatest number of characters, a minus included, of a number that is read. -/
def lengthLimit : Nat := 4300

/-- Read a whole number: an optional sign and digits, of which leading zeros, a fraction of zeros
and lone underscores do not count. -/
def read (cs : List Char) : Whole :=
  let (negative, unsigned) := splitSign cs
  match dropZeros? unsigned with
  | none => malformed
  | some rest =>
    let body := dropFraction rest
    let (ds, tail) := spanDigits ((dropLoneUnderscores? body).getD body)
    if lengthLimit < ds.length + (if negative then 1 else 0) then tooLong
    else if ds.isEmpty || !tail.isEmpty then malformed
    else number (if negative then -(digitsValue ds : Int) else digitsValue ds)

end Whole

end OrderRetrieval.Number

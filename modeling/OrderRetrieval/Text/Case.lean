import OrderRetrieval.Text.Basic
import OrderRetrieval.Text.Case.Table

/-!
# Letter case

Three views of a text that forget case: `lower`, which a reader sees and which minds the final
sigma of Greek words; `fold`, the key of case-insensitive sorting, which may spell a letter out
(`ß` as `ss`); and `letter`, which sends single characters to single characters and decides where
a search term may be highlighted.
-/

namespace OrderRetrieval.Text

/-- The number of places a table of runs moves a code point. -/
def shiftIn (runs : List (Nat × Nat × Nat × Int)) (n : Nat) : Option Int :=
  (runs.find? fun (first, last, step, _) =>
    first ≤ n && n ≤ last && (n - first) % step == 0).map fun (_, _, _, shift) => shift

/-- The lower-case form of an ASCII capital, other ASCII characters themselves, and the rest as
the table says. -/
def moveBy (runs : List (Nat × Nat × Nat × Int)) (c : Char) : Char :=
  if c.toNat < 0x80 then
    if 'A' ≤ c && c ≤ 'Z' then Char.ofNat (c.toNat + 32) else c
  else match shiftIn runs c.toNat with
    | some shift => Char.ofNat (c.toNat + shift).toNat
    | none => c

/-- Characters that word-final position looks past. -/
def isCaseIgnorable (c : Char) : Bool :=
  if c.toNat < 0x80 then c = '\'' || c = '.' || c = ':' || c = '^' || c = '`'
  else inRanges Case.ignorableRanges c

/-- Characters that are an upper-, lower- or title-case letter and not case-ignorable. -/
def isCased (c : Char) : Bool :=
  if c.toNat < 0x80 then ('A' ≤ c && c ≤ 'Z') || ('a' ≤ c && c ≤ 'z')
  else inRanges Case.casedRanges c

/-- Whether the first character that is not case-ignorable is cased. -/
def startsCased (cs : List Char) : Bool :=
  (cs.find? fun c => !isCaseIgnorable c).any isCased

/-- Lower case of one character, between a text that ends cased or not and the text that follows.
A capital sigma is a final one at the end of a word. -/
def lowerChar (afterCased : Bool) (c : Char) (following : List Char) : List Char :=
  if c = 'Σ' then [if afterCased && !startsCased following then 'ς' else 'σ']
  else if c = 'İ' then ['i', '\u0307']
  else [moveBy Case.lowerRuns c]

/-- Lower case of a text that follows one ending cased or not. -/
def lowerAfter (afterCased : Bool) : List Char → List Char
  | [] => []
  | c :: cs =>
    lowerChar afterCased c cs ++
      lowerAfter (if isCaseIgnorable c then afterCased else isCased c) cs

/-- Lower case of a text. -/
def lowerChars (cs : List Char) : List Char := lowerAfter false cs

/-- Lower case of a string. -/
def lower (s : String) : String := String.ofList (lowerChars s.toList)

/-- Case folding of one character. -/
def foldChar (c : Char) : List Char :=
  match Case.foldExpansions.lookup c.toNat with
  | some codes => codes.map Char.ofNat
  | none => [moveBy Case.foldRuns c]

/-- Case folding of a text. -/
def foldChars (cs : List Char) : List Char := cs.flatMap foldChar

/-- Case folding of a string. -/
def fold (s : String) : String := String.ofList (foldChars s.toList)

/-- The letter that a character is a form of: its lower case, and of several lower-case variants
the first. -/
def letter (c : Char) : Char :=
  let small := if c = 'İ' then 'i' else moveBy Case.lowerRuns c
  match (Case.letterVariants.find? fun variants => variants.contains small.toNat) with
  | some (first :: _) => Char.ofNat first
  | _ => small

/-- One-to-one comparison without regard to case. -/
def sameLetter (a b : Char) : Bool := letter a == letter b

@[simp] theorem sameLetter_self (c : Char) : sameLetter c c = true := by simp [sameLetter]

end OrderRetrieval.Text

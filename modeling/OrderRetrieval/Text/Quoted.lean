import OrderRetrieval.Text.Basic
import OrderRetrieval.Text.Printable

/-!
# Quoted literals

A text in a message stands between apostrophes, or between double quotes when it holds an
apostrophe and no double quote.  The quote in use and the backslash are escaped, so are line feed,
carriage return and tabulator, and every other character that cannot be shown is written by number.
-/

namespace OrderRetrieval.Text

/-- The quote that the literal of a text uses. -/
def literalQuote (cs : List Char) : Char :=
  if cs.contains '\'' && !cs.contains '"' then '"' else '\''

/-- One character inside a literal with the given quote. -/
def quoteChar (quote c : Char) : List Char :=
  if c = quote ∨ c = '\\' then ['\\', c]
  else if c = '\n' then ['\\', 'n']
  else if c = '\r' then ['\\', 'r']
  else if c = '\t' then ['\\', 't']
  else if isPrintable c then [c]
  else if c.toNat < 0x100 then '\\' :: 'x' :: hexDigits 2 c.toNat
  else if c.toNat < 0x10000 then '\\' :: 'u' :: hexDigits 4 c.toNat
  else '\\' :: 'U' :: hexDigits 8 c.toNat

/-- The literal of a text. -/
def quotedChars (cs : List Char) : List Char :=
  let quote := literalQuote cs
  quote :: cs.flatMap (quoteChar quote) ++ [quote]

/-- The literal of a string. -/
def quoted (s : String) : String := String.ofList (quotedChars s.toList)

end OrderRetrieval.Text

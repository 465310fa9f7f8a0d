import OrderRetrieval.Number.Double
import OrderRetrieval.Number.Rounding

/-!
# The shortest decimal that reads back

The doubles near a positive `m * 2 ^ e` leave it an interval of reals that round to it.  Its
shortest decimal is the decimal of fewest digits in that interval, of several the nearest.  All
quantities are held over one denominator, so every test is one of natural numbers.
-/

namespace OrderRetrieval.Number

/-- A positive double with the interval that rounds to it: `value / unit` lies between
`low / unit` and `high / unit`, whose ends belong to the interval if `closed`. -/
structure Neighbourhood where
  low : Nat
  value : Nat
  high : Nat
  unit : Nat
  closed : Bool

/-- The interval of the reals that round to `m * 2 ^ e`.  Below a power of two the doubles lie
twice as close. -/
def Neighbourhood.ofBinary (m : Nat) (e : Int) : Neighbourhood :=
  let scale := if 0 ≤ e then twoTo e.toNat else 1
  { low := if m = twoTo 52 ∧ -1074 < e then (4 * m - 1) * scale else (4 * m - 2) * scale
    value := 4 * m * scale
    high := (4 * m + 2) * scale
    unit := if 0 ≤ e then 4 else 4 * twoTo (-e).toNat
    closed := m % 2 = 0 }

/-- A decimal `digits * 10 ^ exponent`. -/
structure Scientific where
  digits : Nat
  exponent : Int
deriving DecidableEq, Repr

/-- The number as a quotient of natural numbers. -/
def Scientific.num (d : Scientific) : Nat := d.digits * tenTo d.exponent.toNat

/-- The power of ten below `num`. -/
def Scientific.den (d : Scientific) : Nat := tenTo (-d.exponent).toNat

/-- Whether the decimal reads back as the double. -/
def Neighbourhood.admits (n : Neighbourhood) (d : Scientific) : Bool :=
  let x := d.num * n.unit
  if n.closed then n.low * d.den ≤ x && x ≤ n.high * d.den
  else n.low * d.den < x && x < n.high * d.den

/-- The `p` with `10 ^ (p - 1) ≤ value / unit < 10 ^ p`. -/
def Neighbourhood.magnitude (n : Neighbourhood) : Int :=
  if n.unit ≤ n.value then (Nat.toDigits 10 (n.value / n.unit)).length
  else
    let ratio := (n.unit + n.value - 1) / n.value
    1 - (Nat.toDigits 10 (ratio - 1)).length

/-- The decimal of the given number of digits that reads back and lies nearest, if there is one.
Only the two neighbours of the value on that decimal grid can be it. -/
def Neighbourhood.onGrid? (n : Neighbourhood) (count : Nat) : Option Scientific :=
  let exponent := n.magnitude - count
  let num := n.value * tenTo (-exponent).toNat
  let den := n.unit * tenTo exponent.toNat
  let below : Scientific := ⟨num / den, exponent⟩
  let above : Scientific := ⟨num / den + 1, exponent⟩
  let rest := num % den
  match n.admits below, n.admits above with
  | false, false => none
  | true, false => some below
  | false, true => some above
  | true, true =>
    some (if 2 * rest < den then below
      else if den < 2 * rest then above
      else if num / den % 2 = 0 then below else above)

/-- The shortest decimal of a positive `m * 2 ^ e`; seventeen digits always suffice. -/
def shortest (m : Nat) (e : Int) : Scientific :=
  let n := Neighbourhood.ofBinary m e
  ((List.range 17).findSome? fun k => n.onGrid? (k + 1)).getD ⟨m * twoTo e.toNat, 0⟩

/-- The decimal of so many digits nearest to a positive `m * 2 ^ e`, a half counting up. -/
def rounded (count : Nat) (m : Nat) (e : Int) : Scientific :=
  let n := Neighbourhood.ofBinary m e
  let exponent := n.magnitude - count
  let num := n.value * tenTo (-exponent).toNat
  let den := n.unit * tenTo exponent.toNat
  ⟨nearestUp num den, exponent⟩

end OrderRetrieval.Number

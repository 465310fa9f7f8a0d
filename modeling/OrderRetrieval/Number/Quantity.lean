import OrderRetrieval.Number.Notation

/-!
# Quantities

Numbers that are either whole, of any size, or doubles, compared by value.
-/

namespace OrderRetrieval

/-- A whole number of any size, or a double. -/
inductive Quantity where
  | whole (n : Int)
  | double (x : Float)

namespace Quantity

/-- A quantity as it is shown. -/
def display : Quantity → String
  | whole n => toString n
  | double x => Number.display x

/-- The double nearest to a quantity. -/
def toDouble : Quantity → Float
  | whole n => Float.ofInt n
  | double x => x

/-- Equality of values. -/
def same : Quantity → Quantity → Bool
  | whole m, whole n => m == n
  | whole m, double x => Double.toInt? x == some m
  | double x, whole m => Double.toInt? x == some m
  | double x, double y => Double.eq x y

/-- The strict order of values; a whole number is compared with the integers around a double. -/
def lt : Quantity → Quantity → Bool
  | whole m, whole n => m < n
  | whole m, double x => match Double.floor? x with
    | some n => if Double.isWhole x then m < n else m ≤ n
    | none => Double.lt 0 x
  | double x, whole m => match Double.floor? x with
    | some n => n < m
    | none => Double.lt x 0
  | double x, double y => Double.lt x y

/-- The order of values. -/
def le (a b : Quantity) : Bool := a.lt b || a.same b

end Quantity

end OrderRetrieval

import OrderRetrieval.Document.Value
import OrderRetrieval.Text.Basic

/-!
# Taking data for numbers and times

Filter values and source amounts may be written in many ways; here they become doubles and moments
of universal time.  Clocks show timestamps that keep their offset.  Numbers of items are whole, and
lists of names may be given in other shapes that have parts.
-/

namespace OrderRetrieval

open Calendar (Moment Timestamp)

/-- The integer toward zero from a double. -/
def Double.toWhole (x : Float) : Except Failure Int :=
  match Double.truncate? x with
  | some n => .ok n
  | none => .error (if Double.isInfinite x then .infiniteNumber else .notANumber)

/-- The number of items that a quantity asks for; a double asks for none. -/
def Quantity.toCount : Quantity → Except Failure Int
  | .whole n => .ok n
  | .double _ => .error .notACount

namespace Datum

/-- The word for the kind of a value that is no number. -/
def kindWord : Datum → String
  | .null => "NoneType"
  | .bool _ => "bool"
  | .int _ => "int"
  | .float _ => "float"
  | .str _ => "str"
  | .time _ => "datetime.datetime"
  | .arr _ => "list"
  | .obj _ => "dict"

/-- The double that a value stands for; texts may spell it. -/
def toDouble : Datum → Except Failure Float
  | .bool b => .ok (if b then 1 else 0)
  | .int n => match Double.ofInt? n with
    | some x => .ok x
    | none => .error .numberTooLarge
  | .float x => .ok x
  | .str s => match Number.readDouble? s with
    | some x => .ok x
    | none => .error (.notANumeral s)
  | x => .error (.notNumeric x.kindWord)

/-- The moment of universal time that a value stands for. -/
def toMoment (x : Datum) : Except Failure Moment :=
  match Checked.timestamp x with
  | .ok t => t.moment
  | .error _ => .error (.notATimestamp x)

/-- The timestamp that a clock shows. -/
def toClock : Datum → Except Failure Timestamp
  | .str s => (Calendar.Iso.read s).mapError (.notIso s)
  | x => .error (.notATimestamp x)

/-- The parts of a value: the items of a list, the characters of a text or the names in an
object. -/
def parts : Datum → Except Failure (List Datum)
  | .arr items => .ok items
  | .str s => .ok (s.toList.map fun c => .str (String.singleton c))
  | .obj fields => .ok (fields.map fun f => .str f.1)
  | x => .error (.noParts x.kindWord)

/-- The items of a list; any other value is its own only item. -/
def asItems : Datum → List Datum
  | .arr items => items
  | x => [x]

end Datum

end OrderRetrieval

import OrderRetrieval.Calendar.Iso
import OrderRetrieval.Checked
import OrderRetrieval.Query.Fault

/-!
# Failures

Everything that can keep a request from being answered, by cause.
-/

namespace OrderRetrieval

/-- Why a request has no answer. -/
inductive Failure where
  /-- The query is at fault. -/
  | rejected (r : Rejection)
  /-- A timestamp has no moment of universal time, or a day no end, in the calendar. -/
  | dateOutOfRange
  /-- A whole number is too large for a double. -/
  | numberTooLarge
  /-- A text with a NUL cannot be compared with another. -/
  | embeddedNul
  /-- The text is no numeral. -/
  | notANumeral (s : String)
  /-- The value is of a kind that is no number. -/
  | notNumeric (kind : String)
  /-- The value is no timestamp. -/
  | notATimestamp (value : Datum)
  /-- The text is no timestamp of the kind that clocks show. -/
  | notIso (s : String) (fault : Calendar.Iso.Fault)
  /-- An infinite number has no whole part. -/
  | infiniteNumber
  /-- What is not a number has no whole part. -/
  | notANumber
  /-- The value is of a kind that is no number of seconds. -/
  | notADuration (kind : String)
  /-- A span of so many days is too long. -/
  | durationTooLong (days : Int)
  /-- One of two timestamps has an offset and the other has none. -/
  | mixedOffsets
  /-- A double does not say how many items to take. -/
  | notACount
  /-- A double does not say how far to count. -/
  | notWhole
  /-- Values of the kind have no parts. -/
  | noParts (kind : String)
  /-- Values of two kinds have no order. -/
  | unordered (relation left right : String)
  /-- There is no such way to combine filters. -/
  | unknownCombinator (name : Datum)
  /-- A whole number has too many digits to be written. -/
  | tooManyDigits
  /-- An attribute of a source order could not be read. -/
  | unreadable (reason : String)
  /-- The order source could not be reached. -/
  | sourceUnavailable (reason : String)
  /-- The input does not have the right shape. -/
  | malformed (title : String) (issues : List Issue)
  /-- A source order could not be mapped to a document, or the document not be stored. -/
  | orderRejected (order : Datum) (reason : String)
  /-- An indexing job failed as a whole. -/
  | jobFailed (job : String) (reason : String)
  /-- There is no such indexing job. -/
  | unknownJob (name : String)
  /-- A row would break a constraint of the order table. -/
  | conflict
  /-- A whole number is too large for a column of the order table. -/
  | columnOverflow
  /-- A value is of a kind that no column of the order table holds. -/
  | notStorable

namespace Failure

/-- The failure for a single fault of a query. -/
def ofFault (f : QueryFault) : Failure := rejected ⟨f, []⟩

/-- The wording of a failure. -/
def message : Failure → String
  | rejected r => r.message
  | dateOutOfRange => "date value out of range"
  | numberTooLarge => "int too large to convert to float"
  | embeddedNul => "embedded null character"
  | notANumeral s => "could not convert string to float: " ++ Text.quoted s
  | notNumeric kind =>
    "float() argument must be a string or a real number, not '" ++ kind ++ "'"
  | notATimestamp value => "not a valid datetime: " ++ value.literal
  | notIso s fault => isoText s fault
  | infiniteNumber => "cannot convert float infinity to integer"
  | notANumber => "cannot convert float NaN to integer"
  | notADuration kind => "unsupported type for timedelta seconds component: " ++ kind
  | durationTooLong days =>
    if days.natAbs < Number.twoTo 31 ∨ days = -Number.twoTo 31 then
      "days=" ++ toString days ++ "; must have magnitude <= 999999999"
    else "Python int too large to convert to C int"
  | mixedOffsets => "can't subtract offset-naive and offset-aware datetimes"
  | notACount => "slice indices must be integers or None or have an __index__ method"
  | notWhole => "'float' object cannot be interpreted as an integer"
  | noParts kind => "'" ++ kind ++ "' object is not iterable"
  | unordered relation left right => "'" ++ relation ++
    "' not supported between instances of '" ++ left ++ "' and '" ++ right ++ "'"
  | unknownCombinator name => name.literal ++ " is not a valid LogicalOperator"
  | tooManyDigits => "Exceeds the limit (" ++ toString Datum.digitLimit ++
    " digits) for integer string conversion; use sys.set_int_max_str_digits() to increase the limit"
  | unreadable reason => reason
  | sourceUnavailable reason => reason
  | malformed title issues =>
    toString issues.length ++ " validation error" ++ (if issues.length = 1 then "" else "s") ++
      " for " ++ title
  | orderRejected order reason => "Failed to index order " ++ order.text ++ ": " ++ reason
  | jobFailed job reason => "Indexing job '" ++ job ++ "' failed: " ++ reason
  | unknownJob name => "Unknown indexing job: " ++ name
  | conflict => "the order breaks a constraint of the table"
  | columnOverflow => "Python int too large to convert to SQLite INTEGER"
  | notStorable => "the order has a value that the table cannot hold"
where
  /-- What is wrong with a text that is no timestamp. -/
  isoText (s : String) : Calendar.Iso.Fault → String
    | .malformed => "Invalid isoformat string: " ++ Text.quoted s
    | .offset micros => "offset must be a timedelta strictly between -timedelta(hours=24) and " ++
      "timedelta(hours=24), not " ++ spanLiteral micros ++ "."
    | .year n => "year " ++ toString n ++ " is out of range"
    | .month => "month must be in 1..12"
    | .day => "day is out of range for month"
    | .hour => "hour must be in 0..23"
    | .minute => "minute must be in 0..59"
    | .second => "second must be in 0..59"
  /-- The form of a span inside a message: those of its days, seconds and microseconds that are not
  zero, of which only days may be negative. -/
  spanLiteral (micros : Int) : String :=
    let rest := micros % Calendar.day
    let parts := [("days", micros / Calendar.day), ("seconds", rest / Calendar.second),
      ("microseconds", rest % Calendar.second)].filter fun part => part.2 ≠ 0
    "datetime.timedelta(" ++
      String.intercalate ", " (parts.map fun (name, n) => name ++ "=" ++ toString n) ++ ")"

end Failure

end OrderRetrieval

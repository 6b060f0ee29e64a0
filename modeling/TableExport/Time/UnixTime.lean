import TableExport.Number.Decimal
import TableExport.Text.Blank
import TableExport.Text.DecimalDigit
import TableExport.Time.Calendar

/-! # Unix time

A Unix time is a text that holds a decimal number of seconds since 1970-01-01 00:00:00 UTC.  It is
read as a binary64 number: blanks around it do not count, digits may be of any script, and single
underscores may separate digits.  The number is rounded to microseconds and then down to whole
seconds, and it is written as date and time in UTC with the year unpadded.

Only the years 1 to 9999 are written (`firstSecond`, `lastSecond`). -/

namespace TableExport.UnixTime

/-- The first second of year 1. -/
def firstSecond : Int := -62135596800

/-- The last second of year 9999. -/
def lastSecond : Int := 253402300799

/-- The number that a text denotes, in seconds. -/
def number? (text : String) : Option Binary64 :=
  (Numeral.dropSeparators? false (Text.asciiDigits (Text.trim text.toList))).bind fun literal =>
    (Decimal.read? literal).bind Decimal.toBinary64?

/-- The fraction of a number in microseconds.  The product with a million is itself rounded to
binary64 before it is rounded to a whole number. -/
def microseconds (x : Binary64) : Nat :=
  let product := Binary64.nearestIndex (x.fractionUnits * 1000000) Binary64.unitsPerOne
  roundHalfEven (Binary64.unitsAt product) Binary64.unitsPerOne

/-- A number of seconds, rounded to microseconds and then down to whole seconds. -/
def wholeSeconds (x : Binary64) : Int :=
  if x.negative then
    if microseconds x = 0 then -(x.wholePart : Int) else -(x.wholePart : Int) - 1
  else if microseconds x < 1000000 then x.wholePart else x.wholePart + 1

/-- Two decimal digits. -/
def twoDigits (n : Nat) : String :=
  String.ofList (Numeral.padded 2 n)

/-- A date and time as text, the year without leading zeros. -/
def write (moment : DateTime) : String :=
  moment.date.year.repr ++ "-" ++ twoDigits moment.date.month ++ "-" ++ twoDigits moment.date.day
    ++ " " ++ twoDigits moment.hour ++ ":" ++ twoDigits moment.minute ++ ":"
    ++ twoDigits moment.second

/-- The seconds that a text denotes, if they fall into the years 1 to 9999. -/
def seconds? (text : String) : Option Int :=
  (number? text).bind fun x =>
    let seconds := wholeSeconds x
    if firstSecond ≤ seconds ∧ seconds ≤ lastSecond then some seconds else none

/-- The date and time, as text, of the instant that a text denotes. -/
def format? (text : String) : Option String :=
  (seconds? text).map fun seconds => write (DateTime.ofSeconds seconds)

end TableExport.UnixTime

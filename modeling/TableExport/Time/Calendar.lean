/-! # The proleptic Gregorian calendar

Days are numbered from 1970-01-01, which is day 0, in both directions.  A period of 400 years has
`146097` days; counted from the first of March its leap days fall at the ends of years, which makes
year, month and day quotients of the day's number in the period.

`Date.ofDay` is the date of a day, `Date.toDay` the day of a date, and `Date.IsValid` the leap rule
and the lengths of months, stated on their own. -/

namespace TableExport

/-- A date of the Gregorian calendar, extended to all years. -/
structure Date where
  year : Int
  month : Nat
  day : Nat
  deriving DecidableEq, Repr

namespace Date

/-- Every fourth year is a leap year, except the hundreds that are not multiples of 400. -/
def isLeap (year : Int) : Bool :=
  year % 4 = 0 && (year % 100 ≠ 0 || year % 400 = 0)

/-- The number of days of a month. -/
def monthLength (year : Int) (month : Nat) : Nat :=
  if month = 2 then (if isLeap year then 29 else 28)
  else if month = 4 ∨ month = 6 ∨ month = 9 ∨ month = 11 then 30
  else 31

/-- A date that the calendar has. -/
def IsValid (date : Date) : Prop :=
  1 ≤ date.month ∧ date.month ≤ 12 ∧ 1 ≤ date.day ∧
    date.day ≤ monthLength date.year date.month

/-- The date of a day. -/
def ofDay (day : Int) : Date :=
  let shifted := day + 719468
  let period := shifted / 146097
  let dayOfPeriod := shifted % 146097
  let yearOfPeriod :=
    (dayOfPeriod - dayOfPeriod / 1460 + dayOfPeriod / 36524 - dayOfPeriod / 146096) / 365
  let dayOfYear := dayOfPeriod - (365 * yearOfPeriod + yearOfPeriod / 4 - yearOfPeriod / 100)
  let monthFromMarch := (5 * dayOfYear + 2) / 153
  let dayOfMonth := dayOfYear - (153 * monthFromMarch + 2) / 5 + 1
  let month := if monthFromMarch < 10 then monthFromMarch + 3 else monthFromMarch - 9
  let year := yearOfPeriod + period * 400 + (if month ≤ 2 then 1 else 0)
  ⟨year, month.toNat, dayOfMonth.toNat⟩

/-- The number of days in the first months of a year. -/
def daysInMonths (year : Int) : Nat → Nat
  | 0 => 0
  | months + 1 => daysInMonths year months + monthLength year (months + 1)

/-- The number of days from the first day of year 1 to the first day of a year. -/
def daysBeforeYear (year : Int) : Int :=
  365 * (year - 1) + (year - 1) / 4 - (year - 1) / 100 + (year - 1) / 400

/-- The day of a date. -/
def toDay (date : Date) : Int :=
  daysBeforeYear date.year + daysInMonths date.year (date.month - 1) + date.day - 719163

end Date

/-- A date and a time of day in whole seconds. -/
structure DateTime where
  date : Date
  hour : Nat
  minute : Nat
  second : Nat
  deriving DecidableEq, Repr

namespace DateTime

/-- The date and time that lie a number of seconds after 1970-01-01 00:00:00. -/
def ofSeconds (seconds : Int) : DateTime :=
  let secondOfDay := (seconds % 86400).toNat
  ⟨Date.ofDay (seconds / 86400), secondOfDay / 3600, secondOfDay / 60 % 60, secondOfDay % 60⟩

/-- The number of seconds from 1970-01-01 00:00:00 to a date and time. -/
def toSeconds (moment : DateTime) : Int :=
  86400 * moment.date.toDay + 3600 * moment.hour + 60 * moment.minute + moment.second

/-- A date and time that calendar and clock have. -/
def IsValid (moment : DateTime) : Prop :=
  moment.date.IsValid ∧ moment.hour < 24 ∧ moment.minute < 60 ∧ moment.second < 60

end DateTime
end TableExport

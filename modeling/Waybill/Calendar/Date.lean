/-!
Calendar days of the proleptic Gregorian calendar, numbered from 1970-01-01, with the years
-262143 to 262142 that the service accepts.  Main statements: `Date.ofDayNumber` and
`Date.dayNumber` are the two directions of the day count, and `Date.read?` accepts a year,
a month and a day separated by hyphens.
-/
namespace Waybill

/-- The earliest year a date may carry. -/
def Date.minYear : Int := -262143

/-- The latest year a date may carry. -/
def Date.maxYear : Int := 262142

/-- A day of the proleptic Gregorian calendar. -/
structure Date where
  year : Int
  month : Nat
  day : Nat
deriving DecidableEq, Repr

namespace Date

/-- Leap years: divisible by 4, except centuries not divisible by 400. -/
def isLeapYear (year : Int) : Bool :=
  (year % 4 == 0 && year % 100 != 0) || year % 400 == 0

/-- The number of days in a month of a year. -/
def daysInMonth (year : Int) (month : Nat) : Nat :=
  match month with
  | 2 => if isLeapYear year then 29 else 28
  | 4 | 6 | 9 | 11 => 30
  | _ => 31

/-- A month and a day that exist in a year within the supported range. -/
def isValid (d : Date) : Bool :=
  minYear ≤ d.year && d.year ≤ maxYear && 1 ≤ d.month && d.month ≤ 12 &&
    1 ≤ d.day && d.day ≤ daysInMonth d.year d.month

/-- Days from 1970-01-01 to this date, counted in 400-year eras of 146097 days. -/
def dayNumber (d : Date) : Int :=
  let y : Int := if d.month ≤ 2 then d.year - 1 else d.year
  let era := y / 400
  let yearOfEra := y - era * 400
  let shifted : Int := if d.month > 2 then d.month - 3 else d.month + 9
  let dayOfYear := (153 * shifted + 2) / 5 + d.day - 1
  let dayOfEra := yearOfEra * 365 + yearOfEra / 4 - yearOfEra / 100 + dayOfYear
  era * 146097 + dayOfEra - 719468

/-- The date that lies `n` days after 1970-01-01. -/
def ofDayNumber (n : Int) : Date :=
  let z := n + 719468
  let era := z / 146097
  let dayOfEra := z - era * 146097
  let yearOfEra := (dayOfEra - dayOfEra / 1460 + dayOfEra / 36524 - dayOfEra / 146096) / 365
  let dayOfYear := dayOfEra - (365 * yearOfEra + yearOfEra / 4 - yearOfEra / 100)
  let monthIndex := (5 * dayOfYear + 2) / 153
  let day := dayOfYear - (153 * monthIndex + 2) / 5 + 1
  let month := if monthIndex < 10 then monthIndex + 3 else monthIndex - 9
  let year := yearOfEra + era * 400 + (if month ≤ 2 then 1 else 0)
  ⟨year, month.toNat, day.toNat⟩

/-- The date `n` days later (earlier for negative `n`). -/
def addDays (d : Date) (n : Int) : Date := ofDayNumber (d.dayNumber + n)

/-- Calendar order. -/
def compare (a b : Date) : Ordering := Ord.compare a.dayNumber b.dayNumber

instance : LE Date := ⟨fun a b => a.dayNumber ≤ b.dayNumber⟩

instance (a b : Date) : Decidable (a ≤ b) :=
  inferInstanceAs (Decidable (a.dayNumber ≤ b.dayNumber))

/-- A natural number written with at least `width` digits. -/
def padded (width n : Nat) : String :=
  let digits := Nat.toDigits 10 n
  String.ofList (List.replicate (width - digits.length) '0' ++ digits)

/-- A year with at least four digits; years beyond 9999 carry a plus sign and years before
0 a minus sign. -/
def yearText (year : Int) : String :=
  if year < 0 then "-" ++ padded 4 year.natAbs
  else if year > 9999 then "+" ++ padded 4 year.toNat
  else padded 4 year.toNat

/-- The date as year, month and day joined by hyphens. -/
def render (d : Date) : String :=
  yearText d.year ++ "-" ++ padded 2 d.month ++ "-" ++ padded 2 d.day

/-- The date as eight digits with no separator. -/
def compact (d : Date) : String :=
  yearText d.year ++ padded 2 d.month ++ padded 2 d.day

/-- The value of a list of decimal digits. -/
def digitsValue (cs : List Char) : Nat :=
  cs.foldl (fun acc c => acc * 10 + (c.toNat - '0'.toNat)) 0

/-- A leading run of one to `most` digits, with what follows it. -/
def leadingDigits (most : Nat) (cs : List Char) : Option (Nat × List Char) :=
  let run := (cs.takeWhile Char.isDigit).take most
  if run.isEmpty then none else some (digitsValue run, cs.drop run.length)

/-- Reads `year-month-day`: a year of one or more digits with an optional sign, then a month
and a day of one or two digits each.  Dates that do not exist are refused. -/
def read? (s : String) : Option Date := do
  let cs := s.toList
  let (negative, rest) := match cs with
    | '-' :: r => (true, r)
    | '+' :: r => (false, r)
    | r => (false, r)
  let (y, rest) ← leadingDigits rest.length rest
  let rest ← match rest with
    | '-' :: r => some r
    | _ => none
  let (m, rest) ← leadingDigits 2 rest
  let rest ← match rest with
    | '-' :: r => some r
    | _ => none
  let (d, rest) ← leadingDigits 2 rest
  if !rest.isEmpty then none
  let date : Date := ⟨if negative then -(y : Int) else y, m, d⟩
  if date.isValid then some date else none

end Date

end Waybill

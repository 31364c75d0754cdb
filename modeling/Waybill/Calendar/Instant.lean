import Waybill.Calendar.Date
/-!
Moments in UTC, counted in seconds from 1970-01-01T00:00:00 with a nanosecond part, and the
texts they are read from and written as: RFC 3339 timestamps, the minute stamp of the
observation trail, and the eight-digit day of guide numbers.  `Instant.monthBounds` gives
the calendar month around a moment as a half-open interval.
-/
namespace Waybill

/-- A moment in UTC.  A leap second is written as the second before it with `10 ^ 9` or more
nanoseconds. -/
structure Instant where
  secs : Int
  nanos : Nat
deriving DecidableEq, Repr

namespace Instant

/-- One second in nanoseconds. -/
def nanosPerSecond : Nat := 1000000000

/-- Midnight at the start of a day. -/
def atMidnight (d : Date) : Instant := ⟨d.dayNumber * 86400, 0⟩

/-- The first moment of the supported range. -/
def earliest : Instant := atMidnight ⟨Date.minYear, 1, 1⟩

/-- The whole second that starts the last nanosecond of the supported range. -/
def latestSecond : Int := (atMidnight ⟨Date.maxYear, 12, 31⟩).secs + 86399

/-- The day a moment falls on. -/
def date (t : Instant) : Date := Date.ofDayNumber (t.secs / 86400)

/-- Seconds since the start of the moment's day. -/
def secondOfDay (t : Instant) : Nat := (t.secs % 86400).toNat

/-- Hours since midnight. -/
def hour (t : Instant) : Nat := t.secondOfDay / 3600

/-- Minutes of the hour. -/
def minute (t : Instant) : Nat := t.secondOfDay % 3600 / 60

/-- Seconds of the minute. -/
def second (t : Instant) : Nat := t.secondOfDay % 60

/-- A moment within the supported years whose nanoseconds stay below two seconds, the
second one only at the last second of a minute. -/
def isValid (t : Instant) : Bool :=
  earliest.secs ≤ t.secs && t.secs ≤ latestSecond && t.nanos < 2 * nanosPerSecond &&
    (t.nanos < nanosPerSecond || t.second == 59)

/-- The moment `secs` seconds and `nanos` nanoseconds after 1970-01-01T00:00:00, when valid. -/
def ofUnix? (secs : Int) (nanos : Nat) : Option Instant :=
  let t : Instant := ⟨secs, nanos⟩
  if t.isValid then some t else none

/-- The moment `n` whole seconds later. -/
def addSeconds (t : Instant) (n : Int) : Instant := ⟨t.secs + n, t.nanos⟩

/-- Chronological order: by seconds, then by nanoseconds. -/
instance : LT Instant := ⟨fun a b => a.secs < b.secs ∨ (a.secs = b.secs ∧ a.nanos < b.nanos)⟩

instance (a b : Instant) : Decidable (a < b) :=
  inferInstanceAs (Decidable (a.secs < b.secs ∨ (a.secs = b.secs ∧ a.nanos < b.nanos)))

instance : LE Instant := ⟨fun a b => ¬ b < a⟩

instance (a b : Instant) : Decidable (a ≤ b) := inferInstanceAs (Decidable (¬ b < a))

/-- Chronological comparison. -/
def compare (a b : Instant) : Ordering :=
  (Ord.compare a.secs b.secs).then (Ord.compare a.nanos b.nanos)

/-- Midnight on the first day of a month, when that day lies in the supported range. -/
def monthStart? (year : Int) (month : Nat) : Option Instant :=
  let d : Date := ⟨year, month, 1⟩
  if d.isValid then some (atMidnight d) else none

/-- The calendar month around `now`: from midnight on its first day to midnight on the first
day of the next month.  A bound that falls outside the supported years is `now` itself. -/
def monthBounds (now : Instant) : Instant × Instant :=
  let d := now.date
  let next : Int × Nat := if d.month = 12 then (d.year + 1, 1) else (d.year, d.month + 1)
  ((monthStart? d.year d.month).getD now, (monthStart? next.1 next.2).getD now)

/-- The minute stamp `year-month-day hour:minute`. -/
def minuteStamp (t : Instant) : String :=
  t.date.render ++ " " ++ Date.padded 2 t.hour ++ ":" ++ Date.padded 2 t.minute

/-- The fractional part of a timestamp: nothing for whole seconds, else three, six or nine
digits, the fewest that hold the nanoseconds. -/
def fractionText (nanos : Nat) : String :=
  if nanos = 0 then ""
  else if nanos % 1000000 = 0 then "." ++ Date.padded 3 (nanos / 1000000)
  else if nanos % 1000 = 0 then "." ++ Date.padded 6 (nanos / 1000)
  else "." ++ Date.padded 9 nanos

/-- The RFC 3339 text of a moment in UTC, ending in `Z`; a leap second shows as second 60. -/
def render (t : Instant) : String :=
  let leap := decide (nanosPerSecond ≤ t.nanos)
  let nanos := if leap then t.nanos - nanosPerSecond else t.nanos
  let second := if leap then t.second + 1 else t.second
  t.date.render ++ "T" ++ Date.padded 2 t.hour ++ ":" ++ Date.padded 2 t.minute ++ ":" ++
    Date.padded 2 second ++ fractionText nanos ++ "Z"

/-- Exactly `n` digits at the front, with their value and what follows. -/
def fixedDigits (n : Nat) (cs : List Char) : Option (Nat × List Char) :=
  let run := cs.take n
  if run.length = n ∧ run.all Char.isDigit then some (Date.digitsValue run, cs.drop n) else none

/-- The nanoseconds written by a fraction of one or more digits; digits past the ninth are
read and ignored. -/
def fractionNanos (cs : List Char) : Option (Nat × List Char) :=
  let run := cs.takeWhile Char.isDigit
  if run.isEmpty then none
  else
    let nine := (run.take 9) ++ List.replicate (9 - min 9 run.length) '0'
    some (Date.digitsValue nine, cs.drop run.length)

/-- A single expected character at the front. -/
def expectChar (c : Char) : List Char → Option (List Char)
  | d :: rest => if d = c then some rest else none
  | [] => none

/-- The offset from UTC in seconds: `Z`, or a sign, two digits of hours, a colon and two
digits of minutes, at most 23:59 either way. -/
def offsetSeconds (cs : List Char) : Option (Int × List Char) :=
  match cs with
  | 'Z' :: rest => some (0, rest)
  | 'z' :: rest => some (0, rest)
  | c :: rest =>
    let sign : Option Int :=
      if c = '+' then some 1 else if c = '-' ∨ c = '−' then some (-1) else none
    match sign with
    | none => none
    | some s => do
      let (h, rest) ← fixedDigits 2 rest
      let rest ← expectChar ':' rest
      let (m, rest) ← fixedDigits 2 rest
      if 59 < m ∨ 23 < h then none else some (s * ((h * 60 + m) * 60 : Nat), rest)
  | [] => none

/-- Reads an RFC 3339 timestamp: a four-digit year, month and day, `T` (or `t` or a space),
hours, minutes and seconds (60 for a leap second), an optional fraction and an offset. -/
def readRfc3339? (s : String) : Option Instant := do
  let cs := s.toList
  let (year, cs) ← fixedDigits 4 cs
  let cs ← expectChar '-' cs
  let (month, cs) ← fixedDigits 2 cs
  let cs ← expectChar '-' cs
  let (day, cs) ← fixedDigits 2 cs
  let cs ← match cs with
    | c :: rest => if c = 'T' ∨ c = 't' ∨ c = ' ' then some rest else none
    | [] => none
  let (hour, cs) ← fixedDigits 2 cs
  let cs ← expectChar ':' cs
  let (minute, cs) ← fixedDigits 2 cs
  let cs ← expectChar ':' cs
  let (second, cs) ← fixedDigits 2 cs
  let (nanos, cs) ← match cs with
    | '.' :: rest => fractionNanos rest
    | _ => some (0, cs)
  let (offset, cs) ← offsetSeconds cs
  if !cs.isEmpty then none
  let d : Date := ⟨year, month, day⟩
  if !d.isValid || 23 < hour || 59 < minute || 60 < second then none
  let (second, nanos) := if second = 60 then (59, nanos + nanosPerSecond) else (second, nanos)
  let wallClock : Int := d.dayNumber * 86400 + hour * 3600 + minute * 60 + second
  ofUnix? (wallClock - offset) nanos

end Instant

end Waybill

import Waybill.Store
import Waybill.Json.Value
/-!
Session transcripts that do not depend on the clock.  A session's k-th step runs at a known
moment, so every timestamp it writes is shown as `@k`; seeded records at fixed moments show
the name of their moment; generated guide numbers are shown as `GN` and the guide's id (or
`BADGN` when the number's day is not the day the guide was created), and the minute stamps
that the steps write into observation trails as `[TS]`.
-/
namespace Waybill

namespace Mask

/-- The members that hold timestamps. -/
def timestampKeys : List String :=
  ["created_at", "updated_at", "accepted_at", "assignment_date", "pickup_date", "delivery_date",
    "cancellation_date", "resolved_at", "timestamp"]

/-- The moments of a session: its first step's moment, its number of steps, and seeded
moments with their names. -/
structure Clock where
  start : Instant
  steps : Nat
  seeds : List (Instant × String)

/-- How a moment is shown: by its seed name, or by the step that ran at it. -/
def Clock.label? (c : Clock) (t : Instant) : Option String :=
  match c.seeds.find? (·.1 == t) with
  | some (_, name) => some ("seed:" ++ name)
  | none =>
    if t.nanos = 0 ∧ c.start.secs ≤ t.secs ∧ t.secs < c.start.secs + c.steps then
      some ("@" ++ toString (t.secs - c.start.secs))
    else none

/-- Whether a text has the shape of a generated guide number. -/
def isGeneratedNumber (s : String) : Bool :=
  match s.toList with
  | 'G' :: 'U' :: '-' :: rest =>
    rest.length == 15 && (rest.take 8).all Char.isDigit && rest.getD 8 ' ' == '-' &&
      (rest.drop 9).all fun c => ('A' ≤ c && c ≤ 'Z') || ('0' ≤ c && c ≤ '9')
  | _ => false

/-- Each generated guide number of the store with the text that stands for it. -/
def numberNames (s : Store) : List (String × String) :=
  (s.guides.filter fun g => isGeneratedNumber g.number).map fun g =>
    let day := String.ofList ((g.number.toList.drop 3).take 8)
    (g.number, (if day == g.createdAt.date.compact then "GN" else "BADGN") ++ toString g.id)

/-- The minute stamps the session's steps write, each in its brackets. -/
def Clock.stamps (c : Clock) : List String :=
  ((List.range c.steps).map fun (k : Nat) => "[" ++ (c.start.addSeconds k).minuteStamp ++ "]").eraseDups

/-- A text with guide numbers and the session's minute stamps hidden. -/
def text (c : Clock) (numbers : List (String × String)) (s : String) : String :=
  let s := numbers.foldl (fun acc (number, name) => acc.replace number name) s
  c.stamps.foldl (fun acc stamp => acc.replace stamp "[TS]") s

/-- A timestamp member's value, shown by its label when it names a known moment. -/
def stamp (c : Clock) (numbers : List (String × String)) : Json → Json
  | .str s =>
    match Instant.readRfc3339? s >>= c.label? with
    | some label => .str label
    | none => .str (text c numbers s)
  | j => j

mutual

/-- A value with its timestamps, guide numbers and minute stamps hidden. -/
def json (c : Clock) (numbers : List (String × String)) : Json → Json
  | .str s => .str (text c numbers s)
  | .arr items => .arr (jsonItems c numbers items)
  | .obj fields => .obj (jsonFields c numbers fields)
  | j => j

/-- The items of an array, each hidden as `json` does. -/
def jsonItems (c : Clock) (numbers : List (String × String)) : List Json → List Json
  | [] => []
  | j :: rest => json c numbers j :: jsonItems c numbers rest

/-- The members of an object, timestamps shown by their labels. -/
def jsonFields (c : Clock) (numbers : List (String × String)) :
    List (String × Json) → List (String × Json)
  | [] => []
  | (k, v) :: rest =>
    (k, if timestampKeys.contains k then stamp c numbers v else json c numbers v) ::
      jsonFields c numbers rest

end

end Mask

end Waybill

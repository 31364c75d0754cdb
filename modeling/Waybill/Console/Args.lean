import Waybill.Json.Value
import Waybill.Decimal.Read
import Waybill.Calendar.Instant
import Waybill.Guide.State
import Waybill.Party
/-!
Arguments of console commands.  A command is a JSON object; an argument that is absent and
one that is `null` are the same.  Reading an argument either gives a value of the expected
kind or a message that names the argument and what was wrong with it.
-/
namespace Waybill

/-- A value read from a command's arguments, or the message explaining why it could not be. -/
abbrev Args := Except String

namespace Args

/-- The argument `key`, unless it is absent or `null`. -/
def find? (j : Json) (key : String) : Option Json :=
  match j.field? key with
  | some .null => none
  | other => other

/-- The message for a missing argument. -/
def missing (key : String) : String := "missing field '" ++ key ++ "'"

/-- The message for an argument of the wrong kind. -/
def wrongKind (key kind : String) : String := "field '" ++ key ++ "' must be " ++ kind

/-- The message for an argument whose text does not read as the expected thing. -/
def badText (key what : String) : String := "field '" ++ key ++ "': " ++ what

/-- A whole number within the signed 64-bit range. -/
def asInt64 (key : String) : Json → Args Int
  | .int n => if -Int.pow 2 63 ≤ n ∧ n < Int.pow 2 63 then .ok n else .error (wrongKind key "an i64")
  | _ => .error (wrongKind key "an i64")

/-- A whole number within the signed 32-bit range. -/
def asInt32 (key : String) : Json → Args Int
  | .int n => if -Int.pow 2 31 ≤ n ∧ n < Int.pow 2 31 then .ok n else .error (wrongKind key "an i32")
  | _ => .error (wrongKind key "an i32")

/-- A whole number that is not negative. -/
def asNat (key : String) : Json → Args Nat
  | .int n => if 0 ≤ n ∧ n < Int.pow 2 64 then .ok n.toNat else .error (wrongKind key "a usize")
  | _ => .error (wrongKind key "a usize")

/-- A string. -/
def asText (key : String) : Json → Args String
  | .str s => .ok s
  | _ => .error (wrongKind key "a string")

/-- A boolean. -/
def asFlag (key : String) : Json → Args Bool
  | .bool b => .ok b
  | _ => .error (wrongKind key "a bool")

/-- A decimal, written as a string or as a whole number. -/
def asDecimal (key : String) : Json → Args Decimal
  | .str s => match Decimal.read? s with
    | some d => .ok d
    | none => .error (badText key "bad decimal")
  | .int n => match Decimal.ofInt? n with
    | some d => .ok d
    | none => .error (badText key "bad decimal")
  | _ => .error (badText key "bad decimal")

/-- A state, by its exact name. -/
def asState (key : String) (j : Json) : Args GuideState := do
  let s ← asText key j
  match GuideState.ofName? s with
  | some st => .ok st
  | none => .error (badText key ("unknown state '" ++ s ++ "'"))

/-- A role, by its exact name. -/
def asRole (key : String) (j : Json) : Args Role := do
  let s ← asText key j
  match Role.ofName? s with
  | some r => .ok r
  | none => .error (badText key ("unknown role '" ++ s ++ "'"))

/-- An initiator, by its exact name. -/
def asInitiator (key : String) (j : Json) : Args Initiator := do
  let s ← asText key j
  match Initiator.ofName? s with
  | some i => .ok i
  | none => .error (badText key ("unknown initiator '" ++ s ++ "'"))

/-- A day written `year-month-day`. -/
def asDate (key : String) (j : Json) : Args Date := do
  let s ← asText key j
  match Date.read? s with
  | some d => .ok d
  | none => .error (badText key "bad date")

/-- The moment of a signed 64-bit count of seconds and an unsigned 32-bit count of nanoseconds;
counts of those widths that name no supported moment are out of range. -/
def unixInstant (key : String) (secs nanos : Int) : Args Instant :=
  if -Int.pow 2 63 ≤ secs ∧ secs < Int.pow 2 63 ∧ 0 ≤ nanos ∧ nanos < Int.pow 2 32 then
    match Instant.ofUnix? secs nanos.toNat with
    | some t => .ok t
    | none => .error (badText key "timestamp out of range")
  else .error (badText key "bad datetime")

/-- A moment: an RFC 3339 text, or an object with whole seconds `secs` and `nanos` since
1970-01-01T00:00:00Z. -/
def asInstant (key : String) : Json → Args Instant
  | .str s => match Instant.readRfc3339? s with
    | some t => .ok t
    | none => .error (badText key "bad datetime")
  | j@(.obj _) =>
    match find? j "secs", find? j "nanos" with
    | some (.int secs), some (.int nanos) => unixInstant key secs nanos
    | some (.int secs), none => unixInstant key secs 0
    | _, _ => .error (badText key "bad datetime")
  | _ => .error (badText key "bad datetime")

/-- An object. -/
def asObject (key : String) : Json → Args Json
  | j@(.obj _) => .ok j
  | _ => .error (wrongKind key "an object")

/-- An array. -/
def asList (key : String) : Json → Args (List Json)
  | .arr items => .ok items
  | _ => .error (wrongKind key "an array")

/-- A required argument read by `read`. -/
def need {α : Type} (j : Json) (key : String) (read : String → Json → Args α) : Args α :=
  match find? j key with
  | some v => read key v
  | none => .error (missing key)

/-- An optional argument read by `read`. -/
def opt {α : Type} (j : Json) (key : String) (read : String → Json → Args α) : Args (Option α) :=
  match find? j key with
  | some v => (read key v).map some
  | none => .ok none

/-- An argument read by `read`, or `fallback` when it is absent. -/
def withDefault {α : Type} (j : Json) (key : String) (read : String → Json → Args α)
    (fallback : α) : Args α :=
  match find? j key with
  | some v => read key v
  | none => .ok fallback

end Args

end Waybill

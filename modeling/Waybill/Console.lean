import Waybill.Console.Calculation
import Waybill.Console.Session
import Waybill.Console.Deployment
/-!
The console: one JSON command in, one JSON answer out.  A command names its operation in
`op`; the other members are its arguments.  A session's first step runs at the moment the
console is given.
-/
namespace Waybill

namespace Console

/-- The moment a session's first step runs at: noon in the middle of a month, so that a
session's steps stay within one day and one month. -/
def clockStart : Instant := (Instant.atMidnight ⟨2026, 3, 15⟩).addSeconds 43200

/-- The answer to one command; a session's first step runs at `start`. -/
def answer (start : Instant) (command : Json) : Json :=
  match command.field? "op" with
  | some (.str "scenario") => Answer.ofArgs (Session.run start command)
  | some (.str op) =>
    match (Calculation.run op command).orElse fun _ => Deployment.run op command with
    | some result => Answer.ofArgs result
    | none => Answer.badInput ("unknown op '" ++ op ++ "'")
  | some _ => Answer.badInput (Args.wrongKind "op" "a string")
  | none => Answer.badInput (Args.missing "op")

end Console

end Waybill

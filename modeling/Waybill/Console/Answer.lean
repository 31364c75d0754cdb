import Waybill.Fault
import Waybill.Console.Args
/-!
Answers of console commands.  A success is `{"ok": value}`; a fault is its code and message,
with the field findings as `details` when fields broke their rules; an abandoned computation
is reported as a panic with its message; arguments that cannot be read are `bad_input`.
-/
namespace Waybill

namespace Answer

/-- A successful answer. -/
def ok (value : Json) : Json := .obj [("ok", value)]

/-- The answer for a fault. -/
def fault (f : Fault) : Json :=
  match f with
  | .overflow _ => .obj [("error", .str "panic"), ("message", .str f.message)]
  | .invalid issues =>
    .obj [("error", .str f.code), ("message", .str f.message), ("details", Fault.issuesJson issues)]
  | _ => .obj [("error", .str f.code), ("message", .str f.message)]

/-- The answer for arguments that cannot be read. -/
def badInput (message : String) : Json :=
  .obj [("error", .str "bad_input"), ("message", .str message)]

/-- The answer for a result that may be a fault. -/
def ofResult {α : Type} (encode : α → Json) : Except Fault α → Json
  | .ok a => ok (encode a)
  | .error f => fault f

/-- The answer for a command whose arguments may not read. -/
def ofArgs (result : Args Json) : Json :=
  match result with
  | .ok answer => answer
  | .error message => badInput message

end Answer

end Waybill

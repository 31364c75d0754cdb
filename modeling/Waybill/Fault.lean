import Waybill.Json.Value
import Waybill.Guide.State
/-!
The ways a request can fail.  Each fault has a stable code, an HTTP status, a one-line
message and a JSON body for clients.  Field checks report their findings field by field,
each finding with a code and named parameters.
-/
namespace Waybill

/-- A rule a field broke: a code, an optional message and named parameters. -/
structure FieldIssue where
  code : String
  message : Option String := none
  params : List (String × Json)

/-- Why a request failed. -/
inductive Fault where
  /-- The storage layer failed. -/
  | storage (text : String)
  /-- Fields broke their rules; each field lists its issues. -/
  | invalid (issues : List (String × List FieldIssue))
  /-- Something the request names does not exist. -/
  | notFound (text : String)
  /-- The guide's state does not allow the operation. -/
  | wrongState (guide : Int) (current : GuideState) (operation : String)
  /-- No edge of the state table leads from one state to the other. -/
  | badMove (source target : GuideState)
  /-- The user cannot act as a courier. -/
  | courierIneligible (text : String)
  /-- The courier has no contract in force. -/
  | noActiveContract (courier : Int)
  /-- The courier already accepted the assignment. -/
  | alreadyAccepted (guide : Int)
  /-- The incident is already resolved. -/
  | alreadyResolved (incident : Int)
  /-- The guide already has a cancellation. -/
  | alreadyCancelled (guide : Int)
  /-- The guide was picked up, so it can no longer be cancelled. -/
  | cancelAfterPickup (guide : Int)
  /-- The caller did not say who they are. -/
  | unauthorized (text : String)
  /-- The caller may not do this. -/
  | forbidden (text : String)
  /-- A notice could not be sent. -/
  | notification (text : String)
  /-- Anything else. -/
  | internal (text : String)
  /-- A decimal result went beyond 96 bits, and the request was abandoned. -/
  | overflow (operation : String)

/-- The text of an issue: its message parameter, or its code when it has none. -/
def FieldIssue.summary (issue : FieldIssue) : String :=
  match (issue.params.find? (fun p => p.1 == "message")).map Prod.snd with
  | some (.str s) => s
  | _ => issue.code

/-- An issue as clients see it. -/
def FieldIssue.toJson (issue : FieldIssue) : Json :=
  .obj [("code", .str issue.code), ("message", Json.opt .str issue.message),
    ("params", .obj issue.params)]

namespace Fault

/-- One field that broke a rule stated in words. -/
def rule (field message : String) : Fault :=
  invalid [(field, [{ code := "custom", params := [("field", .str field), ("message", .str message)] }])]

/-- A missing record of some kind. -/
def missing (resource : String) (id : Int) : Fault :=
  notFound (resource ++ " with id '" ++ toString id ++ "' not found")

/-- An operation the caller may not perform, with the reason. -/
def refused (operation reason : String) : Fault :=
  forbidden ("Cannot " ++ operation ++ ": " ++ reason)

/-- The stable code clients match on. -/
def code : Fault → String
  | storage _ => "DB_ERROR"
  | invalid _ => "VALIDATION_FAILED"
  | notFound _ => "RESOURCE_NOT_FOUND"
  | wrongState .. => "INVALID_GUIDE_STATE"
  | badMove .. => "INVALID_STATE_TRANSITION"
  | courierIneligible _ => "COURIER_INELIGIBLE"
  | noActiveContract _ => "NO_ACTIVE_CONTRACT"
  | alreadyAccepted _ => "ALREADY_ACCEPTED"
  | alreadyResolved _ => "ALREADY_RESOLVED"
  | alreadyCancelled _ => "ALREADY_CANCELLED"
  | cancelAfterPickup _ => "CANNOT_CANCEL_AFTER_PICKUP"
  | unauthorized _ => "UNAUTHORIZED"
  | forbidden _ => "FORBIDDEN"
  | notification _ => "NOTIFICATION_ERROR"
  | internal _ | overflow _ => "INTERNAL_ERROR"

/-- The HTTP status of the answer. -/
def status : Fault → Nat
  | storage _ | internal _ | notification _ | overflow _ => 500
  | invalid _ => 400
  | notFound _ => 404
  | wrongState .. | badMove .. | alreadyAccepted _ | alreadyResolved _ | alreadyCancelled _
  | cancelAfterPickup _ => 409
  | courierIneligible _ | noActiveContract _ => 422
  | unauthorized _ => 401
  | forbidden _ => 403

/-- Field findings in field order, one `field: text` per issue, joined by semicolons. -/
def issuesText (issues : List (String × List FieldIssue)) : String :=
  let sorted := issues.mergeSort (fun a b => decide (a.1 ≤ b.1))
  "; ".intercalate (sorted.flatMap fun f => f.2.map fun i => f.1 ++ ": " ++ i.summary)

/-- The one-line message. -/
def message : Fault → String
  | storage text => "Database error: " ++ text
  | invalid issues => issuesText issues
  | notFound text => "Not found: " ++ text
  | wrongState g s op => "Guide " ++ toString g ++ " is in state " ++ s.name ++ ", cannot " ++ op
  | badMove a b => "Invalid state transition: " ++ a.name ++ " -> " ++ b.name
  | courierIneligible text => "Courier ineligible: " ++ text
  | noActiveContract c => "Courier " ++ toString c ++ " has no active contract"
  | alreadyAccepted g => "Assignment of guide " ++ toString g ++ " already accepted"
  | alreadyResolved i => "Incident " ++ toString i ++ " already resolved"
  | alreadyCancelled g => "Guide " ++ toString g ++ " already cancelled"
  | cancelAfterPickup g => "Guide " ++ toString g ++ " cannot be cancelled after pickup"
  | unauthorized text => "Unauthorized: " ++ text
  | forbidden text => "Forbidden: " ++ text
  | notification text => "Notification error: " ++ text
  | internal text => "Internal server error: " ++ text
  | overflow operation => operation ++ " overflowed"

/-- Field findings as clients see them: each field with the list of its issues. -/
def issuesJson (issues : List (String × List FieldIssue)) : Json :=
  .obj (issues.map fun f => (f.1, .arr (f.2.map FieldIssue.toJson)))

/-- The reason phrase of a status. -/
def reasonPhrase : Nat → String
  | 400 => "Bad Request"
  | 401 => "Unauthorized"
  | 403 => "Forbidden"
  | 404 => "Not Found"
  | 409 => "Conflict"
  | 422 => "Unprocessable Entity"
  | 500 => "Internal Server Error"
  | _ => "Error"

/-- The JSON body of the answer: a title, a message, details for some faults, and the code. -/
def body (f : Fault) : Json :=
  let (title, text, details) : String × String × Option Json := match f with
    | storage _ => ("Database Error", "An error occurred while accessing the database", none)
    | invalid issues => ("Validation Error", "The provided data is invalid", some (issuesJson issues))
    | wrongState g s op =>
      ("Invalid Guide State", f.message,
        some (.obj [("guide_id", .int g), ("current_state", .str s.name), ("operation", .str op)]))
    | badMove a b =>
      ("Invalid State Transition", f.message, some (.obj [("from", .str a.name), ("to", .str b.name)]))
    | internal _ | notification _ | overflow _ => ("Internal Server Error", "An unexpected error occurred", none)
    | _ => (reasonPhrase f.status, f.message, none)
  .obj ([("error", .str title), ("message", .str text)] ++
    (match details with
      | some d => [("details", d)]
      | none => []) ++ [("code", .str f.code)])

end Fault

end Waybill

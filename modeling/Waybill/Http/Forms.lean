import Waybill.Wire.Form
import Waybill.FieldCheck
import Waybill.Service.Guides
import Waybill.Service.Incidents
/-!
The forms the service accepts, and the checks each passes before any service runs.  These
checks look at texts as they were sent, before trimming: lengths count characters, the price
may not be negative and the phone number must have its shape.  Every field is checked and
all the issues are reported together.
-/
namespace Waybill

namespace Http

open Wire

/-- A courier to assign, with optional observations. -/
structure Assignment where
  courier : Int
  observations : Option String

/-- A new courier and the reason for the change. -/
structure Reassignment where
  courier : Int
  reason : String

/-- A kind of cancellation, the reason and optional notes. -/
structure CancelRequest where
  kind : Int
  reason : String
  notes : Option String

/-- A kind of incident and its description. -/
structure IncidentReport where
  kind : Int
  description : String

namespace Forms

/-- A required member holding `slot`. -/
def needed (name : String) (slot : Slot) : Field := { name, slot }

/-- An optional member holding `slot`. -/
def optional (name : String) (slot : Slot) : Field := { name, slot, optional := true }

/-- The form of a new guide. -/
def guide : Form :=
  ⟨"CreateGuideRequest",
    [needed "business_id" .integer, needed "branch_id" .integer, needed "base_price" .amount,
     needed "recipient_name" .text, needed "recipient_phone" .text,
     needed "recipient_address" .text, needed "recipient_city" .text,
     needed "recipient_state" .text, optional "observations" .text]⟩

/-- The form of an assignment. -/
def assignment : Form :=
  ⟨"AssignGuideRequest", [needed "courier_id" .integer, optional "observations" .text]⟩

/-- The form of a reassignment. -/
def reassignment : Form :=
  ⟨"ReassignGuideRequest", [needed "new_courier_id" .integer, needed "reason" .text]⟩

/-- The form of a courier's step, with optional notes that may be left out of an array too. -/
def notes : Form :=
  ⟨"CourierNotesRequest", [{ name := "notes", slot := .text, optional := true, fallback := some .absent }]⟩

/-- The form of a refusal. -/
def refusal : Form := ⟨"RejectGuideRequest", [needed "reason" .text]⟩

/-- The form of a cancellation. -/
def cancellation : Form :=
  ⟨"CancelGuideRequest",
    [needed "cancellation_type_id" .integer, needed "reason" .text, optional "notes" .text]⟩

/-- The form of an incident report. -/
def incident : Form :=
  ⟨"ReportIncidentRequest", [needed "incident_type_id" .integer, needed "description" .text]⟩

/-- The form of a resolution; rescheduling is off unless asked for. -/
def resolution : Form :=
  ⟨"ResolveIncidentRequest",
    [needed "resolution" .text, optional "new_courier_id" .integer,
     { name := "reschedule", slot := .flag, fallback := some (.flag false) }]⟩

/-- The text read for a member. -/
def text (es : List (String × Entry)) (name : String) : String :=
  ((entryOf es name).text?).getD ""

/-- The optional text read for a member. -/
def optionalText (es : List (String × Entry)) (name : String) : Option String :=
  (entryOf es name).text?

/-- The whole number read for a member. -/
def integer (es : List (String × Entry)) (name : String) : Int :=
  ((entryOf es name).integer?).getD 0

/-- A guide request from its form. -/
def guideRequest (es : List (String × Entry)) : GuideRequest :=
  { business := integer es "business_id", branch := integer es "branch_id"
    basePrice := ((entryOf es "base_price").amount?).getD 0
    recipient := ⟨text es "recipient_name", text es "recipient_phone",
      text es "recipient_address", text es "recipient_city", text es "recipient_state"⟩
    observations := optionalText es "observations" }

/-- An assignment from its form. -/
def assignmentOf (es : List (String × Entry)) : Assignment :=
  ⟨integer es "courier_id", optionalText es "observations"⟩

/-- A reassignment from its form. -/
def reassignmentOf (es : List (String × Entry)) : Reassignment :=
  ⟨integer es "new_courier_id", text es "reason"⟩

/-- A cancellation request from its form. -/
def cancelRequestOf (es : List (String × Entry)) : CancelRequest :=
  ⟨integer es "cancellation_type_id", text es "reason", optionalText es "notes"⟩

/-- An incident report from its form. -/
def incidentReportOf (es : List (String × Entry)) : IncidentReport :=
  ⟨integer es "incident_type_id", text es "description"⟩

/-- A resolution from its form. -/
def resolutionOf (es : List (String × Entry)) : Resolution :=
  ⟨text es "resolution", (entryOf es "new_courier_id").integer?,
    ((entryOf es "reschedule").flag?).getD false⟩

/-- A text whose length in characters must lie within bounds; the lower bound is optional. -/
def lengthIssue (value : String) (least : Option Nat) (most : Nat) : Option FieldIssue :=
  let n := value.length
  let short := match least with
    | some l => decide (n < l)
    | none => false
  if short || decide (most < n) then
    some { code := "length",
           params := (match least with
             | some l => [("min", Json.int l)]
             | none => []) ++ [("max", .int most), ("value", .str value)] }
  else none

/-- The issue of a field check, if it failed. -/
def issueOf {α : Type} (result : Except FieldIssue α) : Option FieldIssue :=
  match result with
  | .ok _ => none
  | .error issue => some issue

/-- The fields that have issues, each with its issues. -/
def collect (checks : List (String × List (Option FieldIssue))) : List (String × List FieldIssue) :=
  (checks.map fun (field, found) => (field, found.filterMap id)).filter (!·.2.isEmpty)

/-- The issues of an optional text of at most a thousand characters. -/
def optionalLimit (field : String) (value : Option String) : String × List (Option FieldIssue) :=
  (field, [value.bind fun v => lengthIssue v none FieldCheck.textLimit])

/-- The issues of a required text of one to a thousand characters. -/
def requiredLimit (field : String) (value : String) : String × List (Option FieldIssue) :=
  (field, [lengthIssue value (some 1) FieldCheck.textLimit])

/-- The issues of a guide request. -/
def guideIssues (r : GuideRequest) : List (String × List FieldIssue) :=
  collect [("base_price", [issueOf (FieldCheck.nonNegative r.basePrice)]),
    ("recipient_name", [lengthIssue r.recipient.name (some 1) 200]),
    ("recipient_phone", [issueOf (FieldCheck.phone r.recipient.phone)]),
    ("recipient_address", [lengthIssue r.recipient.address (some 1) 1000]),
    ("recipient_city", [lengthIssue r.recipient.city (some 1) 100]),
    ("recipient_state", [lengthIssue r.recipient.region (some 1) 100]),
    optionalLimit "observations" r.observations]

end Forms

end Http

end Waybill

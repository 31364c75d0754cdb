import Waybill.Guide.State
import Waybill.Decimal.Basic
import Waybill.Calendar.Instant
import Waybill.Party
import Waybill.Text.Blank
/-!
The records the service keeps: guides, the history of each guide, incidents and
cancellations, with the JSON form each takes.  A guide carries its recipient, its price and
commission, who holds it, and the moments of its life.  Its observations grow by stamped
lines and are never rewritten.
-/
namespace Waybill

/-- Who receives a guide, and where. -/
structure Recipient where
  name : String
  phone : String
  address : String
  city : String
  region : String
deriving DecidableEq, Repr

/-- A delivery guide. -/
structure Guide where
  id : Int
  number : String
  business : Int
  branch : Int
  courier : Option Int
  coordinator : Option Int
  state : GuideState
  basePrice : Decimal
  commission : Option Decimal
  recipient : Recipient
  observations : Option String
  accepted : Bool
  acceptedAt : Option Instant
  assignedAt : Option Instant
  pickedUpAt : Option Instant
  deliveredAt : Option Instant
  cancelledAt : Option Instant
  createdAt : Instant
  updatedAt : Instant
deriving DecidableEq

/-- One line of a guide's history: the state it was left in, who acted and what happened. -/
structure HistoryEntry where
  id : Int
  guide : Int
  state : GuideState
  user : Int
  note : String
  createdAt : Instant
deriving DecidableEq, Repr

/-- A problem reported while a guide is on its way. -/
structure Incident where
  id : Int
  guide : Int
  kind : Int
  description : String
  reportedBy : Int
  resolved : Bool
  resolution : Option String
  resolvedBy : Option Int
  resolvedAt : Option Instant
  createdAt : Instant
deriving DecidableEq, Repr

/-- The record of a cancelled guide, with what it cost. -/
structure Cancellation where
  id : Int
  guide : Int
  business : Int
  cancelledBy : Int
  kind : Int
  initiator : Initiator
  reason : String
  charged : Decimal
  courierPayment : Decimal
  createdAt : Instant
deriving DecidableEq

/-- A moment as clients see it. -/
def Instant.toJson (t : Instant) : Json := .str t.render

/-- A decimal as clients see it. -/
def Decimal.toJson (d : Decimal) : Json := .str d.render

namespace Guide

/-- The trail after one more stamped line `[minute] label: note`.  The line follows the
existing text after a line break when that text has something besides blanks, and replaces
it otherwise. -/
def extendTrail (existing : Option String) (label note : String) (moment : Instant) : String :=
  let line := "[" ++ moment.minuteStamp ++ "] " ++ label ++ ": " ++ note
  match existing with
  | some text => if isBlankText text then line else text ++ "\n" ++ line
  | none => line

/-- The guide with one more stamped line in its observations. -/
def appendObservation (g : Guide) (label note : String) (moment : Instant) : Guide :=
  { g with observations := some (extendTrail g.observations label note moment) }

/-- Whether the guide is in the hands of this courier. -/
def isAssignedTo (g : Guide) (courier : Int) : Bool := g.courier == some courier

/-- The guide as clients see it. -/
def toJson (g : Guide) : Json :=
  .obj [("id", .int g.id), ("guide_number", .str g.number), ("business_id", .int g.business),
    ("branch_id", .int g.branch), ("courier_id", Json.opt .int g.courier),
    ("coordinator_id", Json.opt .int g.coordinator), ("current_state", .str g.state.name),
    ("base_price", g.basePrice.toJson), ("courier_commission", Json.opt Decimal.toJson g.commission),
    ("recipient_name", .str g.recipient.name), ("recipient_phone", .str g.recipient.phone),
    ("recipient_address", .str g.recipient.address), ("recipient_city", .str g.recipient.city),
    ("recipient_state", .str g.recipient.region), ("observations", Json.opt .str g.observations),
    ("assignment_accepted", .bool g.accepted), ("accepted_at", Json.opt Instant.toJson g.acceptedAt),
    ("assignment_date", Json.opt Instant.toJson g.assignedAt),
    ("pickup_date", Json.opt Instant.toJson g.pickedUpAt),
    ("delivery_date", Json.opt Instant.toJson g.deliveredAt),
    ("cancellation_date", Json.opt Instant.toJson g.cancelledAt),
    ("created_at", g.createdAt.toJson), ("updated_at", g.updatedAt.toJson)]

end Guide

/-- A history line as clients see it. -/
def HistoryEntry.toJson (e : HistoryEntry) : Json :=
  .obj [("id", .int e.id), ("guide_id", .int e.guide), ("state", .str e.state.name),
    ("user_id", .int e.user), ("observation", .str e.note), ("created_at", e.createdAt.toJson)]

/-- An incident as clients see it. -/
def Incident.toJson (i : Incident) : Json :=
  .obj [("id", .int i.id), ("guide_id", .int i.guide), ("incident_type_id", .int i.kind),
    ("description", .str i.description), ("reported_by", .int i.reportedBy),
    ("resolved", .bool i.resolved), ("resolution", Json.opt .str i.resolution),
    ("resolved_by", Json.opt .int i.resolvedBy), ("resolved_at", Json.opt Instant.toJson i.resolvedAt),
    ("created_at", i.createdAt.toJson)]

/-- A cancellation as clients see it. -/
def Cancellation.toJson (c : Cancellation) : Json :=
  .obj [("id", .int c.id), ("guide_id", .int c.guide), ("business_id", .int c.business),
    ("cancelled_by", .int c.cancelledBy), ("cancellation_type_id", .int c.kind),
    ("initiator", .str c.initiator.name), ("reason", .str c.reason),
    ("penalty_amount", c.charged.toJson), ("courier_payment", c.courierPayment.toJson),
    ("created_at", c.createdAt.toJson)]

/-- The characters a guide number's suffix is drawn from. -/
def GuideNumber.alphabet : List Char := "ABCDEFGHIJKLMNOPQRSTUVWXYZ0123456789".toList

/-- Six characters of the alphabet spelling `n` in base 36, most significant first. -/
def GuideNumber.suffix (n : Nat) : String :=
  String.ofList ((List.range 6).reverse.map fun i =>
    GuideNumber.alphabet.getD (n / Nat.pow 36 i % 36) 'A')

/-- The guide number `GU-<day>-<suffix>` for a guide created at `moment`, the suffix taken from a
serial number. -/
def GuideNumber.make (moment : Instant) (serial : Nat) : String :=
  "GU-" ++ moment.date.compact ++ "-" ++ GuideNumber.suffix serial

end Waybill

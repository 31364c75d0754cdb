import Waybill.Console.Answer
import Waybill.Money
import Waybill.Eligibility
import Waybill.Guide.Record
import Waybill.Http.Caller
/-!
Console commands that compute without a store: money rules, the state table, calendar
months, field checks, the observation trail, guide numbers and the caller header.  Each
command reads its arguments, calls one rule of the library and encodes what it returns.
-/
namespace Waybill

namespace Calculation

open Args

/-- A moment as a pair of whole seconds and nanoseconds since 1970-01-01T00:00:00Z. -/
def instantPair (t : Instant) : Json := .arr [.int t.secs, .int t.nanos]

/-- A loyalty level given inline: its free cancellations a month and its percentages. -/
def readLevel (key : String) (j : Json) : Args LoyaltyLevel := do
  let j ← asObject key j
  pure {
    id := ← withDefault j "id" asInt64 1
    name := ← withDefault j "name" asText ""
    discount := ← withDefault j "discount_percentage" asDecimal 0
    penalty := ← withDefault j "penalty_percentage" asDecimal 0
    freeCancellations := ← withDefault j "free_cancellations_per_month" asInt32 0 }

/-- A contract given inline. -/
def readContract (key : String) (j : Json) : Args Contract := do
  let j ← asObject key j
  pure {
    id := ← withDefault j "id" asInt64 1
    courier := ← need j "courier_id" asInt64
    rate := ← need j "commission_percentage" asDecimal
    start := ← need j "start_date" asDate
    finish := ← opt j "end_date" asDate
    active := ← withDefault j "active" asFlag true }

/-- A user given inline; the name and address default to ones made from the id. -/
def readUser (key : String) (j : Json) : Args User := do
  let j ← asObject key j
  let id ← need j "id" asInt64
  pure {
    id := id
    role := ← need j "role" asRole
    active := ← withDefault j "active" asFlag true
    fullName := ← withDefault j "full_name" asText ("User " ++ toString id)
    email := ← withDefault j "email" asText ("user" ++ toString id ++ "@example.com") }

/-- A penalty as clients see it. -/
def penaltyJson (p : Money.Penalty) : Json :=
  .obj [("penalty_amount", p.charged.toJson), ("courier_payment", p.courierPayment.toJson),
    ("free_cancellation_used", .bool p.freeUsed)]

/-- The answer of a field check: whether it passed. -/
def checkAnswer {α : Type} (result : Except FieldIssue α) : Json :=
  Answer.ok (.bool (FieldCheck.passes result))

/-- Runs a command that computes without a store, or says that it knows no such command. -/
def run (op : String) (j : Json) : Option (Args Json) :=
  match op with
  | "compute_commission" => some do
    let base ← need j "base_price" asDecimal
    let rate ← need j "percentage" asDecimal
    pure (Answer.ofResult Decimal.toJson (Money.commission base rate))
  | "percentage_of" => some do
    let amount ← need j "amount" asDecimal
    let rate ← need j "percentage" asDecimal
    pure (Answer.ofResult Decimal.toJson (Money.percentOf amount rate))
  | "round_money" => some do
    let value ← need j "value" asDecimal
    pure (Answer.ok (Money.round value).toJson)
  | "apply_discount" => some do
    let base ← need j "base_price" asDecimal
    let discount ← need j "discount" asDecimal
    pure (Answer.ofResult Decimal.toJson (Money.discounted base discount))
  | "compute_penalty" => some do
    let commission ← need j "commission" asDecimal
    let initiator ← need j "initiator" asInitiator
    let count ← need j "count" asInt64
    let level ← opt j "loyalty_level" readLevel
    pure (Answer.ofResult penaltyJson (Money.penalty commission initiator level count))
  | "month_bounds" => some do
    let now ← need j "now" asInstant
    let (start, finish) := Instant.monthBounds now
    pure (Answer.ok (.obj [("start", instantPair start), ("end", instantPair finish)]))
  | "transition" => some do
    let source ← need j "from" asState
    let target ← need j "to" asState
    let can := GuideState.canMove source target
    let validate : Json :=
      if can then Answer.ok .null else Answer.fault (.badMove source target)
    pure (Answer.ok (.obj [("can", .bool can), ("validate", validate)]))
  | "allowed_targets" => some do
    let source ← need j "from" asState
    pure (Answer.ok (.arr (source.targets.map fun s => .str s.name)))
  | "state_info" => some do
    let s ← need j "state" asState
    pure (Answer.ok (.obj [("as_str", .str s.name), ("display", .str s.name),
      ("display_order", .int s.displayOrder), ("is_final", .bool s.isFinal),
      ("requires_courier", .bool s.requiresCourier)]))
  | "contract_active" => some do
    let c ← need j "contract" readContract
    let day ← need j "date" asDate
    pure (Answer.ok (.bool (c.inForceOn day)))
  | "require_active_contract" => some do
    let courier ← need j "courier_id" asInt64
    let c ← opt j "contract" readContract
    let today ← need j "today" asDate
    pure (Answer.ofResult Contract.toJson (Eligibility.contract courier c today))
  | "ensure_courier_eligible" => some do
    let courier ← need j "courier_id" asInt64
    let user ← opt j "user" readUser
    pure (Answer.ofResult User.toJson (Eligibility.courier courier user))
  | "user_caps" => some do
    let user ← need j "user" readUser
    pure (Answer.ok (.obj [("can_coordinate", .bool user.canCoordinate),
      ("is_courier", .bool user.isCourier)]))
  | "validate_phone" => some do
    pure (checkAnswer (FieldCheck.phone (← need j "value" asText)))
  | "validate_not_empty" => some do
    pure (checkAnswer (FieldCheck.notBlank (← need j "value" asText)))
  | "validate_length" => some do
    let value ← need j "value" asText
    let least ← need j "min" asNat
    let most ← need j "max" asNat
    pure (checkAnswer (FieldCheck.length value least most))
  | "validate_percentage" => some do
    pure (checkAnswer (FieldCheck.percentage (← need j "value" asDecimal)))
  | "validate_non_negative" => some do
    pure (checkAnswer (FieldCheck.nonNegative (← need j "value" asDecimal)))
  | "require_text" => some do
    let field ← withDefault j "field" asText "text"
    let value ← need j "value" asText
    pure (Answer.ofResult Json.str (FieldCheck.requireText field value))
  | "optional_text" => some do
    let value ← opt j "value" asText
    pure (Answer.ok (Json.opt .str (FieldCheck.optionalText value)))
  | "append_observation" => some do
    let existing ← opt j "existing" asText
    let label ← need j "label" asText
    let note ← need j "note" asText
    let moment ← need j "at" asInstant
    pure (Answer.ok (.str (Guide.extendTrail existing label note moment)))
  | "generate_guide_number" => some do
    let moment ← need j "at" asInstant
    let number := (GuideNumber.make moment 1).toList
    let suffix := number.drop (number.length - 6)
    let suffixOk := suffix.length == 6 &&
      suffix.all fun c => ('A' ≤ c && c ≤ 'Z') || ('0' ≤ c && c ≤ '9')
    pure (Answer.ok (.obj [("prefix", .str (String.ofList (number.take (number.length - 6)))),
      ("suffix_ok", .bool suffixOk)]))
  | "acting_user" => some do
    let value ← opt j "header" asText
    pure (Answer.ofResult Json.int (Caller.ofHeader value))
  | _ => none

end Calculation

end Waybill

import Waybill.Console.Fixture
import Waybill.Console.Mask
import Waybill.Console.Exchange
import Waybill.Console.Batch
import Waybill.Http.Cors
import Waybill.Service.Guides
import Waybill.Service.Assignment
import Waybill.Service.Courier
import Waybill.Service.Cancellation
import Waybill.Service.Incidents
/-!
Console sessions: a run of steps against one store and one directory.  Step k runs at the
session's first moment plus k seconds.  Each step calls one service in a unit of work of its own
and answers as a single command does, with the notices sent during it; the session keeps the store
the unit published.  The transcript
ends with every stored guide, its history, its incidents and its cancellation, and is shown
without clock or random parts.
-/
namespace Waybill

/-- How a session's notices are delivered and shown. -/
inductive Delivery where
  /-- Every notice is shown. -/
  | record
  /-- Every notice is shown, and sending it fails, which the services ignore. -/
  | failing
  /-- Notices are only logged; none is shown. -/
  | logged
  /-- Notices are posted to a relay that shows each with its sender. -/
  | relay (sender : String)
  /-- Notices are posted where nobody listens; none is shown. -/
  | unreachable

/-- The state of a running session. -/
structure Session where
  directory : Directory
  store : Store := {}
  seeds : List (Instant × String) := []
  delivery : Delivery
  cors : Http.CorsPolicy := {}

namespace Session

open Args

/-- The notices of a step as the transcript shows them. -/
def noticesJson (d : Delivery) (notices : List Notice) : Json :=
  match d with
  | .record | .failing =>
    .arr (notices.map fun n =>
      .obj [("to", .str n.recipient), ("subject", .str n.subject), ("body", .str n.body)])
  | .relay sender =>
    .arr (notices.map fun n =>
      .obj [("from", .str sender), ("to", .str n.recipient), ("subject", .str n.subject),
        ("body", .str n.body), ("message_id_ok", .bool true)])
  | .logged | .unreachable => .arr []

/-- Runs a unit of work begun on the session's store, and keeps the store it published. -/
def within {α : Type} (s : Session) (u : Uow (α × List Notice)) (encode : α → Json) :
    Session × Json × List Notice :=
  match u.runOn s.store with
  | (.ok (a, notices), store) => ({ s with store := store }, Answer.ok (encode a), notices)
  | (.error f, store) => ({ s with store := store }, Answer.fault f, [])

/-- Runs a change in a unit of work that commits once the change has succeeded. -/
def transact {α : Type} (s : Session) (tx : Tx (α × List Notice)) (encode : α → Json) :
    Session × Json × List Notice :=
  s.within (Service.committing tx) encode

/-- Runs a change that sends no notices. -/
def transactQuiet {α : Type} (s : Session) (tx : Tx α) (encode : α → Json) :
    Session × Json × List Notice :=
  s.transact (do pure ((← tx), [])) encode

/-- Runs a read in a unit of work that ends without committing. -/
def look {α : Type} (s : Session) (tx : Tx α) (encode : α → Json) :
    Session × Json × List Notice :=
  s.within (do pure ((← Uow.exec tx), [])) encode

/-- A guide with the history, incidents and cancellation kept for it. -/
def guideDump (st : Store) (g : Guide) : Json :=
  .obj [("guide", g.toJson), ("history", .arr ((st.historyOf g.id).map HistoryEntry.toJson)),
    ("incidents", .arr ((st.incidentsOf g.id).map Incident.toJson)),
    ("cancellation", Json.opt Cancellation.toJson (st.cancellationOf? g.id))]

/-- Every stored guide in id order, with its records. -/
def dump (st : Store) : Json := .arr (st.guides.map (guideDump st))

/-- A pair of records under their names. -/
def pairJson {α β : Type} (first : String) (encodeFirst : α → Json) (second : String)
    (encodeSecond : β → Json) (p : α × β) : Json :=
  .obj [(first, encodeFirst p.1), (second, encodeSecond p.2)]

/-- The moment a seeded cancellation is dated, by name, within the month of `now`. -/
def seedMoment (now : Instant) (name : String) : Args Instant :=
  let (start, finish) := Instant.monthBounds now
  match name with
  | "now" => pure now
  | "month_start" => pure start
  | "before_month" => pure (start.addSeconds (-1))
  | "month_last_second" => pure (finish.addSeconds (-1))
  | "next_month_start" => pure finish
  | other => throw (badText "at" ("unknown moment '" ++ other ++ "'"))

/-- A guide request from a step's arguments, with the defaults of a session. -/
def readGuideRequest (j : Json) : Args GuideRequest := do
  let business ← need j "business_id" asInt64
  let branch ← withDefault j "branch_id" asInt64 1
  let basePrice ← withDefault j "base_price" asDecimal ((Decimal.ofParts? 10000 2).getD 0)
  let name ← withDefault j "recipient_name" asText "Ana Destinataria"
  let phone ← withDefault j "recipient_phone" asText "+57 300 123 4567"
  let address ← withDefault j "recipient_address" asText "Calle 10 # 20-30"
  let city ← withDefault j "recipient_city" asText "Medellín"
  let region ← withDefault j "recipient_state" asText "Antioquia"
  let observations ← opt j "observations" asText
  pure { business, branch, basePrice, recipient := ⟨name, phone, address, city, region⟩,
         observations }

/-- Runs one step at `now`: the new session, the step's answer and the notices it sent. -/
def step (s : Session) (now : Instant) (op : String) (j : Json) :
    Args (Session × Json × List Notice) := do
  let env : Env := ⟨s.directory, now⟩
  match op with
  | "create" =>
    let req ← readGuideRequest j
    let user ← withDefault j "user" asInt64 4
    pure (s.transact (Service.create env req user) Guide.toJson)
  | "get" =>
    let g ← need j "guide" asInt64
    pure (s.look (Service.find g) Guide.toJson)
  | "history" =>
    let g ← need j "guide" asInt64
    pure (s.look (Service.history g) fun es => .arr (es.map HistoryEntry.toJson))
  | "cancellation" =>
    let g ← need j "guide" asInt64
    pure (s.look (Service.cancellation g) Cancellation.toJson)
  | "incidents" =>
    let g ← need j "guide" asInt64
    pure (s.look (Service.incidents g) fun is => .arr (is.map Incident.toJson))
  | "assign" =>
    let g ← need j "guide" asInt64
    let courier ← need j "courier" asInt64
    let coordinator ← withDefault j "coordinator" asInt64 1
    let observations ← opt j "observations" asText
    pure (s.transact (Service.assign env g courier coordinator observations) Guide.toJson)
  | "reassign" =>
    let g ← need j "guide" asInt64
    let courier ← need j "new_courier" asInt64
    let reason ← withDefault j "reason" asText "cambio de zona"
    let coordinator ← withDefault j "coordinator" asInt64 1
    pure (s.transact (Service.reassign env g courier reason coordinator) Guide.toJson)
  | "accept" | "pickup" | "in_transit" | "deliver" =>
    let g ← need j "guide" asInt64
    let courier ← need j "courier" asInt64
    let notes ← opt j "notes" asText
    let service := match op with
      | "accept" => Service.accept
      | "pickup" => Service.pickUp
      | "in_transit" => Service.setOut
      | _ => Service.deliver
    pure (s.transact (service env g courier notes) Guide.toJson)
  | "reject" =>
    let g ← need j "guide" asInt64
    let courier ← need j "courier" asInt64
    let reason ← withDefault j "reason" asText "fuera de zona"
    pure (s.transact (Service.reject env g courier reason) Guide.toJson)
  | "cancel" =>
    let g ← need j "guide" asInt64
    let kind ← need j "type" asInt64
    let reason ← withDefault j "reason" asText "pedido anulado"
    let user ← withDefault j "user" asInt64 4
    let notes ← opt j "notes" asText
    pure (s.transact (Service.cancel env g kind reason user notes)
      (pairJson "cancellation" Cancellation.toJson "guide" Guide.toJson))
  | "report" =>
    let g ← need j "guide" asInt64
    let kind ← withDefault j "type" asInt64 1
    let description ← withDefault j "description" asText "portería cerrada"
    let user ← need j "user" asInt64
    pure (s.transact (Service.report env g kind description user)
      (pairJson "incident" Incident.toJson "guide" Guide.toJson))
  | "resolve" =>
    let incident ← need j "incident" asInt64
    let text ← withDefault j "resolution" asText "resuelto"
    let newCourier ← opt j "new_courier" asInt64
    let reschedule ← withDefault j "reschedule" asFlag false
    let user ← withDefault j "user" asInt64 1
    pure (s.transact (Service.resolve env incident ⟨text, newCourier, reschedule⟩ user)
      (pairJson "incident" Incident.toJson "guide" Guide.toJson))
  | "transition" =>
    let g ← need j "guide" asInt64
    let target ← need j "to" asState
    let user ← withDefault j "user" asInt64 1
    let note ← withDefault j "observation" asText "manual"
    pure (s.transactQuiet (do Service.move (← Tx.loadGuide g) target user note now)
      (pairJson "guide" Guide.toJson "entry" HistoryEntry.toJson))
  | "record_event" =>
    let g ← need j "guide" asInt64
    let user ← withDefault j "user" asInt64 1
    let note ← withDefault j "observation" asText "manual"
    pure (s.transactQuiet (do Service.record (← Tx.loadGuide g) user note now)
      (pairJson "guide" Guide.toJson "entry" HistoryEntry.toJson))
  | "seed_cancellation" =>
    let guide ← need j "guide_id" asInt64
    let business ← need j "business_id" asInt64
    let initiator ← withDefault j "initiator" asInitiator .business
    let name ← withDefault j "at" asText "now"
    let createdAt ← seedMoment now name
    let cancelledBy ← withDefault j "cancelled_by" asInt64 4
    let kind ← withDefault j "cancellation_type_id" asInt64 1
    let reason ← withDefault j "reason" asText "previa"
    let charged ← withDefault j "penalty_amount" asDecimal 0
    let courierPayment ← withDefault j "courier_payment" asDecimal 0
    let s := if name == "now" then s else { s with seeds := s.seeds ++ [(createdAt, name)] }
    pure (s.transactQuiet
      (Tx.insertCancellation ⟨guide, business, cancelledBy, kind, initiator, reason, charged,
        courierPayment, createdAt⟩)  Cancellation.toJson)
  | "http" =>
    let req ← Exchange.readRequest j
    let showHeaders ← withDefault j "show_headers" asFlag false
    pure (s.transact (Http.respond s.cors env req) (Exchange.responseJson showHeaders))
  | "uow" =>
    let calls ← need j "ops" asList
    let (store, answers) ← Batch.run now s.store calls
    pure ({ s with store := store }, Answer.ok (.arr answers), [])
  | "directory" =>
    let d ← Fixture.extend now.date s.directory j
    pure ({ s with directory := d }, Answer.ok .null, [])
  | "snapshot" => pure (s, Answer.ok (dump s.store), [])
  | "store_guide" =>
    let g ← need j "guide" asInt64
    pure (s, Answer.ok (Json.opt Guide.toJson (s.store.guide? g)), [])
  | "store_history" =>
    let g ← need j "guide" asInt64
    pure (s, Answer.ok (.arr ((s.store.writtenHistoryOf g).map HistoryEntry.toJson)), [])
  | other => throw ("unknown step op '" ++ other ++ "'")

/-- An answer object with one more member. -/
def withMember (answer : Json) (key : String) (value : Json) : Json :=
  match answer with
  | .obj fields => .obj (fields ++ [(key, value)])
  | other => other

/-- Runs the steps from the `k`-th on, collecting their answers. -/
def runSteps (start : Instant) : Session → Nat → List Json → List Json → Session × List Json
  | s, _, [], answers => (s, answers.reverse)
  | s, k, j :: rest, answers =>
    let now := start.addSeconds k
    let result : Args (Session × Json × List Notice) := match j.field? "op" with
      | some (.str op) => step s now op j
      | some _ => throw (wrongKind "op" "a string")
      | none => throw (missing "op")
    match result with
    | .ok (s', answer, notices) =>
      runSteps start s' (k + 1) rest (withMember answer "notifications" (noticesJson s'.delivery notices) :: answers)
    | .error message =>
      runSteps start s (k + 1) rest (withMember (Answer.badInput message) "notifications" (.arr []) :: answers)

/-- How notices are delivered, from a session's arguments. -/
def readDelivery (j : Json) : Args Delivery := do
  let config ← opt j "config" asObject
  let sender ← match config with
    | some c => withDefault c "notifier_from" asText "no-reply@guias.local"
    | none => pure "no-reply@guias.local"
  match ← withDefault j "notifier" asText "record" with
  | "record" => pure .record
  | "fail" => pure .failing
  | "log" => pure .logged
  | "http" => pure (.relay sender)
  | "http_down" => pure .unreachable
  | other => throw (badText "notifier" ("unknown notifier '" ++ other ++ "'"))

/-- The cross-origin policy a session's configuration sets. -/
def readCors (j : Json) : Args Http.CorsPolicy := do
  match ← opt j "config" asObject with
  | some c =>
    let origins ← withDefault c "cors_origins" asList []
    let origins ← origins.mapM (asText "cors_origins")
    pure (Http.CorsPolicy.ofOrigins origins)
  | none => pure {}

/-- The transcript of a session whose first step runs at `start`. -/
def run (start : Instant) (j : Json) : Args Json := do
  let directory ← Fixture.initial start.date (find? j "directory")
  let delivery ← readDelivery j
  let cors ← readCors j
  let steps ← need j "steps" asList
  let (s, answers) := runSteps start { directory, delivery, cors } 0 steps []
  let clock : Mask.Clock := ⟨start, steps.length, s.seeds⟩
  let transcript : Json := .obj [("steps", .arr answers), ("final", dump s.store)]
  pure (Answer.ok (Mask.json clock (Mask.numberNames s.store) transcript))

end Session

end Waybill

import Waybill.Http.Route
import Waybill.Http.Forms
import Waybill.Http.Caller
import Waybill.Http.MediaType
import Waybill.Service.Assignment
import Waybill.Service.Courier
import Waybill.Service.Cancellation
/-!
The HTTP interface of the service.  A request is routed, then its parts are taken in order:
the id in its path, its caller, and its JSON body read as the endpoint's form, which must
then pass the form's checks.  The first part that fails answers on its own.  Otherwise the
service runs: its result comes back in an envelope `{success, message, data}`, and its fault
as the fault's status and body, with nothing it did kept.  Only an overflow abandons the
request altogether.
-/
namespace Waybill

namespace Http

open Wire

/-- The parts of a request taken before a service runs; a part that fails gives the answer. -/
abbrev Intake := Except Response

/-- The answer for a fault. -/
def faultResponse (f : Fault) : Response := Response.ofJson f.status f.body

/-- The id of the path. -/
def intakeId (raw : Option String) : Intake Int :=
  match pathId (raw.getD "") with
  | .ok id => .ok id
  | .error text => .error (Response.ofText 400 text)

/-- The caller named by the request. -/
def intakeCaller (req : Request) : Intake Int :=
  match Caller.ofHeader (req.header? Caller.header) with
  | .ok id => .ok id
  | .error f => .error (faultResponse f)

/-- The body of the request read as a form. -/
def intakeForm (req : Request) (form : Form) : Intake (List (String × Entry)) :=
  let jsonBody := match req.header? "content-type" with
    | some v => Caller.isHeaderText v && isJsonMediaType v
    | none => false
  if !jsonBody then
    .error (Response.ofText 415 "Expected request with `Content-Type: application/json`")
  else
    let body := req.body.getD []
    match form.read body with
    | .ok entries => .ok entries
    | .error p =>
      match p.kind with
      | .malformed =>
        .error (Response.ofText 400 ("Failed to parse the request body as JSON: " ++ p.render body))
      | .mismatched =>
        .error (Response.ofText 422
          ("Failed to deserialize the JSON body into the target type: " ++ p.render body))

/-- A form whose checks found no issue. -/
def intakeChecked (issues : List (String × List FieldIssue)) : Intake Unit :=
  if issues.isEmpty then .ok () else .error (faultResponse (.invalid issues))

/-- The envelope of a successful answer. -/
def envelope (message : Option String) (data : Json) : Json :=
  .obj [("success", .bool true), ("message", Json.opt .str message), ("data", data)]

/-- Runs a service and answers with its result in an envelope, or with its fault, keeping
nothing the service did; an overflow is passed on. -/
def serve {α : Type} (tx : Tx (α × List Notice)) (message : Option String) (encode : α → Json) :
    Tx (Response × List Notice) :=
  tryCatch (do
      let (a, notices) ← tx
      pure (Response.ofJson 200 (envelope message (encode a)), notices))
    fun f => match f with
      | .overflow _ => throw f
      | _ => pure (faultResponse f, [])

/-- Runs a service that sends no notices. -/
def serveQuiet {α : Type} (tx : Tx α) (encode : α → Json) : Tx (Response × List Notice) :=
  serve (do pure ((← tx), [])) none encode

/-- The answer of a request whose parts were taken, or of the part that failed. -/
def finish (intake : Intake (Tx (Response × List Notice))) : Tx (Response × List Notice) :=
  match intake with
  | .ok tx => tx
  | .error r => pure (r, [])

/-- A moment as an RFC 3339 timestamp with a numeric offset. -/
def offsetStamp (t : Instant) : String :=
  String.ofList (t.render.toList.dropLast) ++ "+00:00"

/-- The health report. -/
def health (now : Instant) : Json :=
  .obj [("status", .str "ok"), ("service", .str "delivery-guides"),
    ("timestamp", .str (offsetStamp now))]

/-- A pair of records under their names. -/
def pairJson (first : String) (a : Json) (second : String) (b : Json) : Json :=
  .obj [(first, a), (second, b)]

/-- Runs a courier's step on the guide of the path. -/
def courierStep (req : Request) (raw : Option String) (message : String)
    (step : Int → Int → Option String → Tx (Guide × List Notice)) : Intake (Tx (Response × List Notice)) := do
  let id ← intakeId raw
  let caller ← intakeCaller req
  let es ← intakeForm req Forms.notes
  let notes := Forms.optionalText es "notes"
  intakeChecked (Forms.collect [Forms.optionalLimit "notes" notes])
  pure (serve (step id caller notes) (some message) Guide.toJson)

/-- Answers a request, before a `HEAD` request's payload is dropped. -/
def dispatch (env : Env) (req : Request) : Tx (Response × List Notice) :=
  match route req.method req.route with
  | .notFound => pure (Response.bare 404, [])
  | .notAllowed => pure (Response.bare 405, [])
  | .found endpoint raw =>
    match endpoint with
    | .health => pure (Response.ofJson 200 (health env.now), [])
    | .createGuide => finish do
      let caller ← intakeCaller req
      let r := Forms.guideRequest (← intakeForm req Forms.guide)
      intakeChecked (Forms.guideIssues r)
      pure (serve (Service.create env r caller) (some "Guía creada exitosamente") Guide.toJson)
    | .showGuide => finish do
      let id ← intakeId raw
      pure (serveQuiet (Service.find id) Guide.toJson)
    | .guideHistory => finish do
      let id ← intakeId raw
      pure (serveQuiet (Service.history id) fun es => .arr (es.map HistoryEntry.toJson))
    | .assign => finish do
      let id ← intakeId raw
      let caller ← intakeCaller req
      let a := Forms.assignmentOf (← intakeForm req Forms.assignment)
      intakeChecked (Forms.collect [Forms.optionalLimit "observations" a.observations])
      pure (serve (Service.assign env id a.courier caller a.observations)
        (some "Guía asignada exitosamente") Guide.toJson)
    | .reassign => finish do
      let id ← intakeId raw
      let caller ← intakeCaller req
      let r := Forms.reassignmentOf (← intakeForm req Forms.reassignment)
      intakeChecked (Forms.collect [Forms.requiredLimit "reason" r.reason])
      pure (serve (Service.reassign env id r.courier r.reason caller)
        (some "Guía reasignada exitosamente") Guide.toJson)
    | .accept => finish (courierStep req raw "Asignación aceptada" (Service.accept env))
    | .reject => finish do
      let id ← intakeId raw
      let caller ← intakeCaller req
      let reason := Forms.text (← intakeForm req Forms.refusal) "reason"
      intakeChecked (Forms.collect [Forms.requiredLimit "reason" reason])
      pure (serve (Service.reject env id caller reason) (some "Asignación rechazada") Guide.toJson)
    | .pickUp => finish (courierStep req raw "Guía recogida" (Service.pickUp env))
    | .setOut => finish (courierStep req raw "Guía en ruta" (Service.setOut env))
    | .deliver => finish (courierStep req raw "Guía entregada" (Service.deliver env))
    | .cancel => finish do
      let id ← intakeId raw
      let caller ← intakeCaller req
      let c := Forms.cancelRequestOf (← intakeForm req Forms.cancellation)
      intakeChecked (Forms.collect [Forms.requiredLimit "reason" c.reason,
        Forms.optionalLimit "notes" c.notes])
      pure (serve (Service.cancel env id c.kind c.reason caller c.notes) (some "Guía cancelada")
        fun (x, g) => pairJson "cancellation" x.toJson "guide" g.toJson)
    | .showCancellation => finish do
      let id ← intakeId raw
      pure (serveQuiet (Service.cancellation id) Cancellation.toJson)
    | .reportIncident => finish do
      let id ← intakeId raw
      let caller ← intakeCaller req
      let r := Forms.incidentReportOf (← intakeForm req Forms.incident)
      intakeChecked (Forms.collect [Forms.requiredLimit "description" r.description])
      pure (serve (Service.report env id r.kind r.description caller) (some "Incidencia reportada")
        fun (i, g) => pairJson "incident" i.toJson "guide" g.toJson)
    | .listIncidents => finish do
      let id ← intakeId raw
      pure (serveQuiet (Service.incidents id) fun is => .arr (is.map Incident.toJson))
    | .resolveIncident => finish do
      let id ← intakeId raw
      let caller ← intakeCaller req
      let r := Forms.resolutionOf (← intakeForm req Forms.resolution)
      intakeChecked (Forms.collect [Forms.requiredLimit "resolution" r.text])
      pure (serve (Service.resolve env id r caller) (some "Incidencia resuelta")
        fun (i, g) => pairJson "incident" i.toJson "guide" g.toJson)

/-- Answers a request; the answer to `HEAD` is that to `GET` without its payload. -/
def handle (env : Env) (req : Request) : Tx (Response × List Notice) := do
  let (r, notices) ← dispatch env req
  pure (if req.method == "HEAD" then { r with payload := .empty } else r, notices)

end Http

end Waybill

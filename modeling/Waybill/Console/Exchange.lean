import Waybill.Http.Cors
import Waybill.Console.Args
/-!
HTTP exchanges within a console session.  A step describes a request: its method, path,
caller, body and headers.  A JSON body is sent as compact text with the members of its
objects sorted by name and the content type `application/json`; a raw body is sent as it is.
The answer shows the status and the payload: `null` when empty, the JSON value, or the text.
-/
namespace Waybill

namespace Exchange

open Args

/-- The text of a header value given as JSON: a string as it is, anything else as JSON text. -/
def headerText : Json → String
  | .str s => s
  | j => j.render

/-- The extra headers of a step, in the order given. -/
def extraHeaders (j : Json) : Args (List (String × String)) := do
  match ← opt j "headers" asObject with
  | some (.obj fields) => pure (fields.filterMap fun (k, v) =>
      match v with
      | .null => none
      | _ => some (k, headerText v))
  | _ => pure []

/-- The request a step describes. -/
def readRequest (j : Json) : Args Http.Request := do
  let method ← withDefault j "method" asText "GET"
  let path ← need j "path" asText
  let body : Option (List UInt8) ← match find? j "body" with
    | some b => pure (some (Json.render (Json.sortMembers b)).toUTF8.toList)
    | none => match ← opt j "raw_body" asText with
      | some s => pure (some s.toUTF8.toList)
      | none => pure none
  let contentType : Option String ← match j.field? "content_type" with
    | some .null => pure none
    | some (.str s) => pure (some s)
    | some _ => throw (wrongKind "content_type" "a string")
    | none => pure (if body.isSome then some "application/json" else none)
  let caller := (find? j "user").map headerText
  let extra ← extraHeaders j
  let headers := (match contentType with
      | some t => [("content-type", t)]
      | none => []) ++
    (match caller with
      | some c => [("x-user-id", c)]
      | none => []) ++ extra
  pure { method, path, headers, body }

/-- A payload as the transcript shows it. -/
def payloadJson : Http.Payload → Json
  | .empty => .null
  | .json v => .obj [("json", v)]
  | .text s => .obj [("text", .str s)]

/-- A response as the transcript shows it, with its cross-origin headers when asked for. -/
def responseJson (showHeaders : Bool) (r : Http.Response) : Json :=
  .obj ([("status", .int r.status), ("body", payloadJson r.payload)] ++
    if showHeaders then [("headers", .obj ((Http.corsHeaders r).map fun (k, v) => (k, .str v)))]
    else [])

end Exchange

end Waybill

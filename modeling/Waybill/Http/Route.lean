import Waybill.Http.Message
import Waybill.Text.Integer
import Waybill.Text.Escape
/-!
The routes of the service.  A path is matched segment by segment against the route table;
a path that matches no route is not found, and a path whose route does not take the method
is refused with "method not allowed".  A `GET` route also answers `HEAD`.  The id in a path
is percent-decoded and must then read as a 64-bit whole number.
-/
namespace Waybill

namespace Http

/-- What a request asks the service to do. -/
inductive Endpoint where
  | health
  | createGuide
  | showGuide
  | guideHistory
  | assign
  | reassign
  | accept
  | reject
  | pickUp
  | setOut
  | deliver
  | cancel
  | showCancellation
  | reportIncident
  | listIncidents
  | resolveIncident
  deriving DecidableEq

/-- A route: its path pattern, `none` standing for the id segment, and what each method of
it asks for. -/
structure Route where
  pattern : List (Option String)
  methods : List (String × Endpoint)

/-- The route table. -/
def routes : List Route :=
  let guide (action : String) (methods : List (String × Endpoint)) : Route :=
    ⟨[some "api", some "guides", none, some action], methods⟩
  [⟨[some "health"], [("GET", .health)]⟩,
   ⟨[some "api", some "guides"], [("POST", .createGuide)]⟩,
   ⟨[some "api", some "guides", none], [("GET", .showGuide)]⟩,
   guide "history" [("GET", .guideHistory)],
   guide "assign" [("POST", .assign)],
   guide "reassign" [("POST", .reassign)],
   guide "accept" [("POST", .accept)],
   guide "reject" [("POST", .reject)],
   guide "pickup" [("POST", .pickUp)],
   guide "in-transit" [("POST", .setOut)],
   guide "deliver" [("POST", .deliver)],
   guide "cancel" [("POST", .cancel)],
   guide "cancellation" [("GET", .showCancellation)],
   guide "incidents" [("POST", .reportIncident), ("GET", .listIncidents)],
   ⟨[some "api", some "incidents", none, some "resolve"], [("POST", .resolveIncident)]⟩]

/-- The segments of a path: the text between slashes after the leading one. -/
def segments (path : String) : Option (List String) :=
  match path.toList with
  | '/' :: rest => some ((String.ofList rest).splitOn "/")
  | _ => none

/-- The id segment of a path that fits a pattern, or `some none` for a pattern without one. -/
def fit : List (Option String) → List String → Option (Option String)
  | [], [] => some none
  | some lit :: ps, s :: ss => if lit == s then fit ps ss else none
  | none :: ps, s :: ss =>
    if s.isEmpty then none
    else match fit ps ss with
      | some _ => some (some s)
      | none => none
  | _, _ => none

/-- Where a request is routed. -/
inductive Routing where
  /-- No route has the path. -/
  | notFound
  /-- A route has the path, but not the method. -/
  | notAllowed
  /-- The endpoint asked for, with the raw id segment of the path when it has one. -/
  | found (endpoint : Endpoint) (id : Option String)

/-- Routes a request by its method and its path without the query. -/
def route (method path : String) : Routing :=
  match segments path with
  | none => .notFound
  | some ss =>
    match routes.findSome? (fun r => (fit r.pattern ss).map fun id => (r, id)) with
    | none => .notFound
    | some (r, id) =>
      let wanted := if method == "HEAD" then "GET" else method
      match r.methods.find? (·.1 == wanted) with
      | some (_, e) => .found e id
      | none => .notAllowed

/-- The id of a path, or the text explaining why it is not one. -/
def pathId (raw : String) : Except String Int :=
  match String.fromUTF8? (ByteArray.mk (percentDecode raw.toUTF8.toList).toArray) with
  | none => .error "Invalid URL: Invalid UTF-8 in `id`"
  | some s =>
    match readInt64? s with
    | some n => .ok n
    | none =>
      .error ("Invalid URL: Cannot parse `\"" ++ debugText s ++
        "\"` to a `i64`")

end Http

end Waybill

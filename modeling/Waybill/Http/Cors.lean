import Waybill.Http.Api
/-!
Cross-origin rules.  Without configured origins the service is permissive: it allows the
origin a request names, with credentials, and in answer to an `OPTIONS` request it allows
whatever method and headers were asked for.  With configured origins it allows only those,
the methods `GET`, `POST` and `OPTIONS`, the headers a client needs, and lets browsers keep
the answer for an hour.  Every `OPTIONS` request is answered at once with an empty `200`;
every answer says that it varies with the origin and the requested method and headers.
-/
namespace Waybill

namespace Http

/-- The origins a deployment allows; none means any. -/
structure CorsPolicy where
  origins : List String := []

/-- A header value a request may carry: no control character but tab. -/
def isHeaderValue (s : String) : Bool :=
  s.toList.all fun c => c == '\t' || (' ' ≤ c && c.toNat ≠ 127)

namespace CorsPolicy

/-- A policy allowing the given origins, those that cannot be header values left out. -/
def ofOrigins (origins : List String) : CorsPolicy := ⟨origins.filter isHeaderValue⟩

/-- The headers every answer gets: the allowed origin, credentials when permissive, and what
the answer varies with. -/
def common (p : CorsPolicy) (req : Request) : List (String × String) :=
  let origin := req.header? "origin"
  let allowed := match origin with
    | some o => if p.origins.isEmpty || p.origins.contains o then [("access-control-allow-origin", o)] else []
    | none => []
  allowed ++
    (if p.origins.isEmpty then [("access-control-allow-credentials", "true")] else []) ++
    [("vary", "origin, access-control-request-method, access-control-request-headers")]

/-- The headers only an answer to `OPTIONS` gets: the allowed methods and headers, and how
long the answer may be kept. -/
def preflight (p : CorsPolicy) (req : Request) : List (String × String) :=
  if p.origins.isEmpty then
    (match req.header? "access-control-request-method" with
      | some m => [("access-control-allow-methods", m)]
      | none => []) ++
    (match req.header? "access-control-request-headers" with
      | some h => [("access-control-allow-headers", h)]
      | none => [])
  else
    [("access-control-allow-methods", "GET,POST,OPTIONS"),
     ("access-control-allow-headers", "content-type,accept,origin,x-user-id"),
     ("access-control-max-age", "3600")]

end CorsPolicy

/-- Answers a request under a cross-origin policy. -/
def respond (p : CorsPolicy) (env : Env) (req : Request) : Tx (Response × List Notice) := do
  if req.method == "OPTIONS" then
    pure ({ status := 200, payload := .empty, headers := p.common req ++ p.preflight req }, [])
  else
    let (r, notices) ← handle env req
    pure ({ r with headers := r.headers ++ p.common req }, notices)

/-- The cross-origin headers of a response by lower-case name, repeated values joined. -/
def corsHeaders (r : Response) : List (String × String) :=
  let named := (r.headers.map fun (k, v) => (lowerText k, v)).filter fun (k, _) =>
    k.startsWith "access-control-" || k == "vary"
  named.foldl (fun acc (k, v) =>
    if acc.any (·.1 == k) then acc.map fun (k', v') => if k' == k then (k', v' ++ ", " ++ v) else (k', v')
    else acc ++ [(k, v)]) []

end Http

end Waybill

import Waybill.Console.Answer
import Waybill.Settings
import Waybill.Connection
import Waybill.Startup
/-!
Console commands about deployment: the settings a set of environment variables gives, what
each kind of fault looks like to a client, why a database address cannot be connected to, and
how the service starts and stops.  Only the variables a deployment reads may be given; the
others are refused, since they could not change the result.

A start is run against a machine where only its own addresses can be listened on.  The port
`auto` stands for a free port the console chooses, and `busy` for one another program holds;
both are shown as `<PORT>`.
-/
namespace Waybill

namespace Deployment

open Args

/-- The environment variables a deployment reads or passes on to its logging. -/
def knownVariables : List String :=
  Settings.variableNames ++ ["RUST_LOG", "RUST_BACKTRACE", "RUST_LIB_BACKTRACE"]

/-- Pool settings as the console shows them, timeouts in seconds. -/
def poolJson (p : PoolSettings) : Json :=
  .obj [("url", .str p.url), ("max_connections", .int p.maxConnections),
    ("min_connections", .int p.minConnections), ("acquire_timeout_secs", .int p.acquireTimeout),
    ("idle_timeout_secs", .int p.idleTimeout), ("max_lifetime_secs", .int p.maxLifetime)]

/-- Settings as the console shows them, with what they imply. -/
def settingsJson (s : Settings) : Json :=
  .obj [("environment", .str s.environment), ("port", .int s.port), ("host", .str s.host),
    ("database_url", Json.opt .str s.databaseUrl),
    ("database_max_connections", .int s.maxConnections),
    ("cors_origins", .arr (s.corsOrigins.map .str)), ("log_level", .str s.logLevel.name),
    ("notifier_url", Json.opt .str s.notifierUrl), ("notifier_from", .str s.notifierFrom),
    ("is_development", .bool s.isDevelopment), ("is_production", .bool s.isProduction),
    ("server_url", .str s.serverUrl), ("database", Json.opt poolJson s.pool?)]

/-- The variables a command sets under `key`, each a known one holding a text. -/
def readVariables (key : String) (j : Json) : Args (List (String × String)) := do
  match ← opt j key asObject with
  | some (.obj fields) =>
    fields.mapM fun (name, value) =>
      if knownVariables.contains name then do pure (name, ← asText name value)
      else throw ("variable '" ++ name ++ "' is not allowed")
  | _ => pure []

/-- The value the variables give a name; a name set twice keeps the later value. -/
def lookup (vars : List (String × String)) (name : String) : Option String :=
  (vars.reverse.find? (·.1 == name)).map (·.2)

/-- The text of a storage failure of the given kind. -/
def storageText (kind text : String) : Args String :=
  match kind with
  | "RowNotFound" => pure "no rows returned by a query that expected to return at least one row"
  | "PoolTimedOut" => pure "pool timed out while waiting for an open connection"
  | "PoolClosed" => pure "attempted to acquire a connection on a closed pool"
  | "WorkerCrashed" => pure "attempted to communicate with a crashed background worker"
  | "Protocol" => pure ("encountered unexpected or invalid data: " ++ text)
  | "ColumnNotFound" => pure ("no column found for name: " ++ text)
  | "TypeNotFound" => pure ("type named " ++ text ++ " not found")
  | other => throw (badText "db_error" ("unknown database error '" ++ other ++ "'"))

/-- The fault a command describes by its kind and the members that kind needs. -/
def readFault (j : Json) : Args Fault := do
  let text := fun (_ : Unit) => need j "text" asText
  match ← need j "kind" asText with
  | "Database" =>
    let kind ← need j "db_error" asText
    pure (.storage (← storageText kind (← withDefault j "text" asText "")))
  | "Validation" => pure (Fault.rule (← need j "field" asText) (← need j "message" asText))
  | "NotFound" => pure (.notFound (← text ()))
  | "not_found" => pure (Fault.missing (← need j "resource" asText) (← need j "id" asInt64))
  | "InvalidGuideState" =>
    pure (.wrongState (← need j "guide_id" asInt64) (← need j "current" asState)
      (← need j "operation" asText))
  | "InvalidStateTransition" => pure (.badMove (← need j "from" asState) (← need j "to" asState))
  | "CourierIneligible" => pure (.courierIneligible (← text ()))
  | "Unauthorized" => pure (.unauthorized (← text ()))
  | "Forbidden" => pure (.forbidden (← text ()))
  | "Notification" => pure (.notification (← text ()))
  | "Internal" => pure (.internal (← text ()))
  | "forbidden" => pure (Fault.refused (← need j "operation" asText) (← need j "reason" asText))
  | "NoActiveContract" => pure (.noActiveContract (← need j "courier_id" asInt64))
  | "AlreadyAccepted" => pure (.alreadyAccepted (← need j "guide_id" asInt64))
  | "AlreadyCancelled" => pure (.alreadyCancelled (← need j "guide_id" asInt64))
  | "CannotCancelAfterPickup" => pure (.cancelAfterPickup (← need j "guide_id" asInt64))
  | "AlreadyResolved" => pure (.alreadyResolved (← need j "incident_id" asInt64))
  | other => throw (badText "kind" ("unknown error kind '" ++ other ++ "'"))

/-- A fault as a client sees it: its code, status, message and body. -/
def faultJson (f : Fault) : Json :=
  .obj [("code", .str f.code), ("status", .int f.status), ("response_status", .int f.status),
    ("message", .str f.message), ("body", f.body)]

/-- The port the console listens on for a service whose `PORT` is `auto` or `busy`; the
answer shows it as `<PORT>`. -/
def chosenPort : Nat := 47913

/-- Why the service cannot listen on an address: the port is held by another program when the
service was given a busy one, and only the machine's own addresses can be listened on. -/
def listenProblem (busy : Bool) (address : SocketAddress) : Option String :=
  if busy then some "Address already in use (os error 98)"
  else if address.ip.isUnspecified || address.ip.isLoopback then none
  else some "Cannot assign requested address (os error 99)"

/-- The signal a command names, `TERM` when it names none. -/
def readSignal (j : Json) : Args StopSignal := do
  match ← opt j "signal" asText with
  | none | some "TERM" => pure .terminate
  | some "INT" => pure .interrupt
  | some other => throw (badText "signal" ("unknown signal '" ++ other ++ "'"))

/-- A start of the service as the console shows it: whether it listened, its exit status, its
log lines and its error stream, with the chosen port written `<PORT>`. -/
def launchJson (chosen : Bool) (l : Launch) : Json :=
  let shown := fun (t : String) => if chosen then t.replace (toString chosenPort) "<PORT>" else t
  .obj [("started", .bool l.outcome.started), ("exit_code", .int l.outcome.exitCode),
    ("signal", .null), ("timed_out", .bool false),
    ("stdout", .arr (l.log.map fun line => .str (shown line.render))),
    ("stderr", .str (shown l.outcome.errorText))]

/-- Runs a deployment command, or says that it knows no such command. -/
def run (op : String) (j : Json) : Option (Args Json) :=
  match op with
  | "env_config" => some do
    let vars ← readVariables "vars" j
    match Settings.read (lookup vars) with
    | .ok s => pure (Answer.ok (settingsJson s))
    | .error r => pure (.obj [("error", .str "config"), ("message", .str r.line)])
  | "error_response" => some do
    pure (Answer.ok (faultJson (← readFault j)))
  | "db_connect" => some do
    let url ← need j "url" asText
    let most ← withDefault j "max_connections" asNat 20
    if Nat.pow 2 32 ≤ most then throw (wrongKind "max_connections" "a u32")
    match Connection.addressReport url with
    | some report =>
      pure (.obj [("error", .str "database"), ("message", .str (Connection.failure report).line),
        ("config", poolJson { url := url, maxConnections := most })])
    | none => throw "db_connect only runs addresses that fail to parse"
  | "server" => some do
    let vars ← readVariables "env" j
    let signal ← readSignal j
    let port := lookup vars "PORT"
    let chosen := port == some "auto" || port == some "busy"
    let vars := if chosen then vars ++ [("PORT", toString chosenPort)] else vars
    let launch := Launch.run (lookup vars) (listenProblem (port == some "busy")) signal
    pure (Answer.ok (launchJson chosen launch))
  | _ => none

end Deployment

end Waybill

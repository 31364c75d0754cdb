import Waybill.Settings
import Waybill.Connection
import Waybill.Web.Socket
/-!
Starting the service and stopping it.

A start reads the settings first; if they do not read, it fails before anything is logged.
Otherwise it logs a banner at the settings' level and picks its storage.  A database address
is connected to, and a failure there is logged and ends the start.  Without one, production
deployments fail and other deployments keep their data in memory, with two warnings.  Then it
names how notifications are sent, reads the address to listen on from the host and the port,
announces it with the endpoints it serves, and listens.  A service that listens serves until
it is asked to stop, says why it stops, and ends well.

Lines above the settings' level are left out of the log.  A start that fails ends with the
report of its failure.
-/
namespace Waybill

/-- A line of the service's log: how severe it is, the part of the service that wrote it,
and its text. -/
structure LogLine where
  level : LogLevel
  source : String := "delivery_guides"
  text : String
  deriving DecidableEq, Repr

/-- The line as the log shows it, after its time. -/
def LogLine.render (l : LogLine) : String := l.level.name ++ " " ++ l.source ++ ": " ++ l.text

/-- What asks a running service to stop: a request to terminate, or an interrupt from the
terminal. -/
inductive StopSignal where
  | terminate
  | interrupt
  deriving DecidableEq, Repr

/-- How a start of the service ends: it failed for the reason the report gives, or it served
until it was asked to stop. -/
inductive Outcome where
  | failed (report : Report)
  | stopped
  deriving DecidableEq, Repr

namespace Outcome

/-- Whether the service listened. -/
def started : Outcome → Bool
  | failed _ => false
  | stopped => true

/-- The status the service ends with. -/
def exitCode : Outcome → Nat
  | failed _ => 1
  | stopped => 0

/-- What the service writes on its error stream as it ends. -/
def errorText : Outcome → String
  | failed r => "Error: " ++ r.block ++ "\n"
  | stopped => ""

end Outcome

/-- A start of the service: what it logged until it listened or failed, how it ended, and
what it logged as it stopped. -/
structure Launch where
  opening : List LogLine
  outcome : Outcome
  closing : List LogLine := []
  deriving DecidableEq, Repr

/-- Everything a start of the service logged. -/
def Launch.log (l : Launch) : List LogLine := l.opening ++ l.closing

namespace Startup

/-- A line of the service itself at the given level. -/
def say (level : LogLevel) (text : String) : LogLine := { level := level, text := text }

/-- The lines that open every start. -/
def banner (s : Settings) : List LogLine :=
  [say .info "🚚 Delivery Guides - ciclo de vida de guías",
   say .info "================================================",
   say .info ("🌍 Entorno: " ++ s.environment)]

/-- The lines of choosing the storage, and the failure that ends the start if one does. -/
def storage (s : Settings) : List LogLine × Option Report :=
  match s.pool? with
  | some p =>
    let problem := (Connection.addressReport p.url).getD Connection.poolTimedOut
    let failure := Connection.failure problem
    ([{ level := .info, source := "delivery_guides::database::connection",
        text := "🗄️ Conectando a " ++ Connection.masked p.url },
      say .error ("❌ Error conectando a la base de datos: " ++ failure.line)], some failure)
  | none =>
    if s.isProduction then ([], some { message := "DATABASE_URL must be set in production" })
    else
      ([say .warn ("⚠️ DATABASE_URL no definida: almacenamiento en memoria (solo desarrollo, " ++
          "los datos se pierden al reiniciar)"),
        say .warn ("⚠️ Directorio de demostración: coordinador 1, mensajeros 2 y 3, " ++
          "usuario de negocio 4, negocios 1 y 2")], none)

/-- The line that names how notifications are sent. -/
def notifierLine (s : Settings) : LogLine :=
  match s.notifierUrl with
  | some url => say .info ("📧 Notificaciones vía relay HTTP: " ++ url)
  | none => say .info "📧 Notificaciones solo en logs"

/-- The lines that announce the address and the endpoints served. -/
def announce (address : SocketAddress) : List LogLine :=
  [say .info ("🌐 Servidor iniciando en http://" ++ address.render),
   say .info "🔍 Endpoints disponibles:",
   say .info "   GET  /health",
   say .info "   POST /api/guides - Crear guía",
   say .info "   GET  /api/guides/:id - Obtener guía",
   say .info "   GET  /api/guides/:id/history - Historial",
   say .info "   POST /api/guides/:id/assign | reassign - Asignación",
   say .info "   POST /api/guides/:id/accept | reject | pickup | in-transit | deliver - Mensajero",
   say .info "   POST /api/guides/:id/cancel, GET /api/guides/:id/cancellation - Cancelación",
   say .info "   POST|GET /api/guides/:id/incidents, POST /api/incidents/:id/resolve - Incidencias"]

/-- The lines of a service that stops when asked. -/
def stopping (signal : StopSignal) : List LogLine :=
  [say .info (match signal with
    | .terminate => "🛑 Señal de terminación recibida, apagando servidor..."
    | .interrupt => "🛑 Señal Ctrl+C recibida, apagando servidor..."),
   say .info "👋 Servidor terminado"]

/-- The log of a start with the given settings until it listens or fails, and how it ends.
`listen` tells why the address cannot be listened on, if it cannot. -/
def serve (s : Settings) (listen : SocketAddress → Option String) : List LogLine × Outcome :=
  let (stored, storeFailure) := storage s
  let opening := banner s ++ stored
  match storeFailure with
  | some r => (opening, .failed r)
  | none =>
    let opening := opening ++ [notifierLine s]
    match SocketAddress.parse? s.serverUrl with
    | none => (opening, .failed { message := "invalid socket address syntax" })
    | some address =>
      let opening := opening ++ announce address
      match listen address with
      | some problem => (opening, .failed { message := problem })
      | none => (opening, .stopped)

end Startup

/-- Starts the service with the variables `lookup` gives, and stops it by `signal` if it
listens; the log keeps the lines of the settings' level and the levels above it. -/
def Launch.run (lookup : String → Option String) (listen : SocketAddress → Option String)
    (signal : StopSignal) : Launch :=
  match Settings.read lookup with
  | .error r => { opening := [], outcome := .failed r }
  | .ok s =>
    let shown := fun (lines : List LogLine) => lines.filter fun l => s.logLevel.shows l.level
    let (opening, outcome) := Startup.serve s listen
    { opening := shown opening, outcome := outcome,
      closing := if outcome.started then shown (Startup.stopping signal) else [] }

end Waybill

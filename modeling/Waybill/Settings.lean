import Waybill.Text.Blank
import Waybill.Report
/-!
Deployment settings read from environment variables.  Every variable is trimmed, and one that
is blank counts as unset; an unset variable keeps its default.  Numbers are unsigned decimals
with an optional leading `+`, read digit by digit from the left, so the first bad digit or the
first digit that makes the number too large decides the error.  The port, then the pool size,
then the log level are checked, and the first failure is the one reported.
-/
namespace Waybill

/-- How much the service logs, from the most to the least severe. -/
inductive LogLevel where
  | error
  | warn
  | info
  | debug
  | trace
  deriving DecidableEq, Repr

namespace LogLevel

/-- The level as log lines show it. -/
def name : LogLevel → String
  | error => "ERROR"
  | warn => "WARN"
  | info => "INFO"
  | debug => "DEBUG"
  | trace => "TRACE"

/-- The level with the given rank, one being the most severe. -/
def ofRank? : Nat → Option LogLevel
  | 1 => some error
  | 2 => some warn
  | 3 => some info
  | 4 => some debug
  | 5 => some trace
  | _ => none

/-- The rank of a level, one being the most severe. -/
def rank : LogLevel → Nat
  | error => 1
  | warn => 2
  | info => 3
  | debug => 4
  | trace => 5

theorem ofRank?_rank (l : LogLevel) : ofRank? l.rank = some l := by
  cases l <;> rfl

/-- Whether a log kept at level `most` shows lines of `level`. -/
def shows (most level : LogLevel) : Bool := level.rank ≤ most.rank

/-- The level a name gives, in any mix of cases. -/
def ofName? (s : String) : Option LogLevel :=
  [error, warn, info, debug, trace].find? fun l => l.name == s.toUpper

end LogLevel

/-- Why a text is not an unsigned number. -/
inductive NumberProblem where
  | empty
  | invalidDigit
  | tooLarge
  deriving DecidableEq, Repr

/-- The problem as error reports word it. -/
def NumberProblem.text : NumberProblem → String
  | .empty => "cannot parse integer from empty string"
  | .invalidDigit => "invalid digit found in string"
  | .tooLarge => "number too large to fit in target type"

/-- The value of ASCII digits below `bound`, read from the left after `acc`. -/
def readDigits (bound : Nat) : Nat → List Char → Except NumberProblem Nat
  | acc, [] => .ok acc
  | acc, c :: rest =>
    if '0' ≤ c && c ≤ '9' then
      let next := acc * 10 + (c.toNat - '0'.toNat)
      if next < bound then readDigits bound next rest else .error .tooLarge
    else .error .invalidDigit

/-- An unsigned decimal below `bound`, with an optional leading `+`. -/
def readUnsigned (bound : Nat) (s : String) : Except NumberProblem Nat :=
  match s.toList with
  | [] => .error .empty
  | ['+'] | ['-'] => .error .invalidDigit
  | '+' :: rest => readDigits bound 0 rest
  | cs => readDigits bound 0 cs

/-- The log level a setting names: a rank from one to five, or a name. -/
def LogLevel.read? (s : String) : Option LogLevel :=
  match readUnsigned (Nat.pow 2 64) s with
  | .ok n => (LogLevel.ofRank? n).orElse fun _ => LogLevel.ofName? s
  | .error _ => LogLevel.ofName? s

/-- What a connection pool is built from: the address, its size, and its timeouts in seconds. -/
structure PoolSettings where
  url : String
  maxConnections : Nat
  minConnections : Nat := 1
  acquireTimeout : Nat := 30
  idleTimeout : Nat := 300
  maxLifetime : Nat := 3600
  deriving Repr

/-- How the service is deployed. -/
structure Settings where
  environment : String := "development"
  port : Nat := 3000
  host : String := "0.0.0.0"
  databaseUrl : Option String := none
  maxConnections : Nat := 20
  corsOrigins : List String := []
  logLevel : LogLevel := .info
  notifierUrl : Option String := none
  notifierFrom : String := "no-reply@guias.local"
  deriving Repr

namespace Settings

/-- Whether this is a development deployment. -/
def isDevelopment (s : Settings) : Bool := s.environment == "development"

/-- Whether this is a production deployment. -/
def isProduction (s : Settings) : Bool := s.environment == "production"

/-- The address the server listens on. -/
def serverUrl (s : Settings) : String := s.host ++ ":" ++ toString s.port

/-- The pool the settings ask for, when they name a database. -/
def pool? (s : Settings) : Option PoolSettings :=
  s.databaseUrl.map fun url => { url := url, maxConnections := s.maxConnections }

/-- The variables the settings are read from. -/
def variableNames : List String :=
  ["ENVIRONMENT", "PORT", "HOST", "DATABASE_URL", "DATABASE_MAX_CONNECTIONS", "CORS_ORIGINS",
   "LOG_LEVEL", "NOTIFIER_URL", "NOTIFIER_FROM"]

/-- A variable's trimmed value, unless it is unset or blank. -/
def setting? (lookup : String → Option String) (name : String) : Option String :=
  ((lookup name).map trim).filter (!·.isEmpty)

/-- A number setting below `bound`, or its default when unset. -/
def number (lookup : String → Option String) (name : String) (bound default : Nat) :
    Except Report Nat :=
  match setting? lookup name with
  | none => .ok default
  | some v =>
    match readUnsigned bound v with
    | .ok n => .ok n
    | .error p => .error { message := name ++ " must be a valid number", causes := [p.text] }

/-- The origins a comma-separated list names, each trimmed, the empty ones left out. -/
def origins (list : String) : List String :=
  ((list.splitOn ",").map trim).filter (!·.isEmpty)

/-- The settings the variables give, or the first problem with them. -/
def read (lookup : String → Option String) : Except Report Settings := do
  let defaults : Settings := {}
  let port ← number lookup "PORT" (Nat.pow 2 16) defaults.port
  let maxConnections ← number lookup "DATABASE_MAX_CONNECTIONS" (Nat.pow 2 32) defaults.maxConnections
  let logLevel ← match setting? lookup "LOG_LEVEL" with
    | none => .ok defaults.logLevel
    | some v => match LogLevel.read? v with
      | some l => .ok l
      | none => .error { message := "LOG_LEVEL must be one of trace, debug, info, warn, error" }
  let var := setting? lookup
  pure { environment := (var "ENVIRONMENT").getD defaults.environment, port := port,
         host := (var "HOST").getD defaults.host, databaseUrl := var "DATABASE_URL",
         maxConnections := maxConnections, corsOrigins := ((var "CORS_ORIGINS").map origins).getD [],
         logLevel := logLevel, notifierUrl := var "NOTIFIER_URL",
         notifierFrom := (var "NOTIFIER_FROM").getD defaults.notifierFrom }

end Settings

end Waybill

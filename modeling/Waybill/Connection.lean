import Waybill.Web.Url
import Waybill.Settings
import Waybill.Report
/-!
Reading a database address before connecting.  The address must be a URL; then its parts
are taken as connection options: a host that decodes to a path starting with `/` names a
socket, and the decoded host, username, password and database name must be UTF-8.  Query
parameters set options in order, and some must read as values: `sslmode` names one of six
modes, `statement-cache-capacity` and `port` are numbers, `hostaddr` is an IP address.

A failure is reported as a chain of causes joined by `": "`: that the database could not be
reached, that the configuration is wrong, and the problem itself, which is repeated as the
cause of the configuration error.  A wrong `sslmode` is wrapped twice, since its own error
is already a configuration error.
-/
namespace Waybill

namespace Connection

/-- The report of a configuration error with the given problem text. -/
def configuration (problem : String) : Report :=
  { message := "error with configuration: " ++ problem, causes := [problem] }

/-- The report of a wrong `sslmode` value: a configuration error caused by one. -/
def sslModeReport (value : String) : Report :=
  let inner := configuration ("unknown value " ++ debugQuoted value ++ " for `ssl_mode`")
  { message := "error with configuration: " ++ inner.message, causes := inner.links }

/-- The problem with percent-decoded text that is not UTF-8, if any. -/
def decodeProblem (text : String) : Option String :=
  (utf8Problem? 0 (percentDecode text.toUTF8.toList)).map Utf8Problem.text

/-- The pairs of a query: split at `&`, each at its first `=`, with `+` read as a space and
percent escapes decoded; bytes that are not UTF-8 become replacement characters. -/
def queryPairs (query : String) : List (String × String) :=
  let decode := fun (s : String) =>
    let bytes := percentDecode (s.toUTF8.toList.map fun b => if b == 43 then 32 else b)
    decodeLossy (bytes.length + 1) bytes
  ((query.splitOn "&").filter (!·.isEmpty)).map fun pair =>
    match pair.splitOn "=" with
    | [] => ("", "")
    | [name] => (decode name, "")
    | name :: rest => (decode name, decode ("=".intercalate rest))

/-- The report of the first query parameter that does not read, if any. -/
def parameterReport : List (String × String) → Option Report
  | [] => none
  | (key, value) :: rest =>
    let problem : Option Report :=
      if key == "sslmode" || key == "ssl-mode" then
        if ["disable", "allow", "prefer", "require", "verify-ca", "verify-full"].contains
            (String.ofList (value.toList.map Char.toLower)) then none
        else some (sslModeReport value)
      else if key == "statement-cache-capacity" then
        match readUnsigned (Nat.pow 2 64) value with
        | .ok _ => none
        | .error p => some (configuration p.text)
      else if key == "port" then
        match readUnsigned (Nat.pow 2 16) value with
        | .ok _ => none
        | .error p => some (configuration p.text)
      else if key == "hostaddr" then
        if Host.isStrictIp value then none else some (configuration "invalid IP address syntax")
      else none
    problem.orElse fun _ => parameterReport rest

/-- The report of why an address cannot give connection options, if it cannot. -/
def addressReport (address : String) : Option Report :=
  match Url.parse address with
  | .error p => some (configuration p.text)
  | .ok url =>
    let hostProblem := url.host.bind fun h =>
      if (percentDecode h.toUTF8.toList).head? == some 47 then decodeProblem h else none
    let userProblem := if url.username.isEmpty then none else decodeProblem url.username
    let passwordProblem := url.password.bind decodeProblem
    let database := String.ofList (url.path.toList.dropWhile (· == '/'))
    let databaseProblem := if database.isEmpty then none else decodeProblem database
    match (hostProblem.orElse fun _ => userProblem).orElse fun _ =>
        (passwordProblem.orElse fun _ => databaseProblem) with
    | some p => some (configuration p)
    | none => parameterReport (queryPairs (url.query.getD ""))

/-- The address with its credentials hidden: when an `@` stands after the first `://`, the
text between them becomes `***:***`. -/
def masked (address : String) : String :=
  let cs := address.toList
  let schemeEnd := (List.range cs.length).find? fun i => (cs.drop i).take 3 == [':', '/', '/']
  let lastAt := ((cs.zipIdx.filter fun (c, _) => c == '@').getLast?).map Prod.snd
  match schemeEnd, lastAt with
  | some s, some a =>
    if a > s then String.ofList (cs.take (s + 3)) ++ "***:***@" ++ String.ofList (cs.drop (a + 1))
    else address
  | _, _ => address

/-- The failure of a pool that found no server to connect to before its time ran out. -/
def poolTimedOut : Report := { message := "pool timed out while waiting for an open connection" }

/-- The report of a failed connection whose options gave the report `r`. -/
def failure (r : Report) : Report := r.within "could not connect to PostgreSQL"

end Connection

end Waybill

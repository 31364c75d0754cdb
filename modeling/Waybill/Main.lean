import Waybill.Startup
/-!
The service's command line.  It starts the service with the settings of the process's
environment, writes each log line on standard output and the report of a failed start on the
error stream, and exits with the start's status.  The library serves its API to the console
rather than over a network, so a service that starts listens until its standard input ends,
which stops it as a request to terminate would.
-/
namespace Waybill.Main

/-- The settings' variables as the process's environment holds them. -/
def environment : IO (List (String × String)) :=
  Settings.variableNames.filterMapM fun name => do
    pure ((← IO.getEnv name).map fun value => (name, value))

/-- Reads standard input until it ends. -/
partial def awaitEnd (stdin : IO.FS.Stream) : IO Unit := do
  let line ← stdin.getLine
  if !line.isEmpty then awaitEnd stdin

/-- Writes log lines on standard output. -/
def writeLog (stdout : IO.FS.Stream) (lines : List LogLine) : IO Unit := do
  for line in lines do
    stdout.putStrLn line.render
  stdout.flush

end Waybill.Main

open Waybill in
def main : IO UInt32 := do
  let vars ← Main.environment
  let launch := Launch.run (fun name => (vars.find? (·.1 == name)).map (·.2)) (fun _ => none)
    .terminate
  let stdout ← IO.getStdout
  Main.writeLog stdout launch.opening
  if launch.outcome.started then Main.awaitEnd (← IO.getStdin)
  Main.writeLog stdout launch.closing
  (← IO.getStderr).putStr launch.outcome.errorText
  pure launch.outcome.exitCode.toUInt32

import UrlRouting.CommandLine.Run
import UrlRouting.Telemetry.Exposition

/-!
# The program

Reads the arguments, the environment and the file of the table, and prints what the run comes to.
-/

namespace UrlRouting.CommandLine

/-- A line of the log. -/
def logLine (format : LogFormat) (e : Event) : String :=
  match format with
  | .json => (Json.object (e.fields ++ [("target", .text e.source)])).compress
  | .pretty =>
    e.level.label ++ " " ++ e.source ++ ": " ++ e.message
      ++ String.join (e.details.map fun (name, value) => ", " ++ name ++ ": " ++ value.compress)

/-- The text of a file, or the reason why it cannot be read. -/
def readTable (path : String) : IO (Except String String) := do
  try
    return .ok (← IO.FS.readFile path)
  catch
    | .noFileOrDirectory .. => return .error "No such file or directory (os error 2)"
    | .permissionDenied .. => return .error "Permission denied (os error 13)"
    | .inappropriateType .. => return .error "Is a directory (os error 21)"
    | e => return .error (toString e)

/-- Prints a report. Requests took `seconds`. -/
def print (format : LogFormat) (seconds : Float) (r : Report) : IO UInt32 := do
  for notice in r.notices do
    match notice with
    | .line text => IO.eprintln text
    | .event e => IO.eprintln (logLine format e)
  IO.print r.output
  match r.measurements? with
  | some ms => IO.print (Registry.empty.recordAll seconds ms).exposition
  | none => pure ()
  return r.exit.toUInt32

end UrlRouting.CommandLine

open UrlRouting UrlRouting.CommandLine

/-- Runs the program. -/
def main (args : List String) : IO UInt32 := do
  let env : Environment :=
    { routes? := ← IO.getEnv "SENTIER_ROUTES", logFilter? := ← IO.getEnv "RUST_LOG" }
  match Invocation.read env.routes? args with
  | .error i => CommandLine.print .json 0 (interrupt env i)
  | .ok invocation =>
    let file ← readTable invocation.routes
    let start ← IO.monoNanosNow
    let report ← IO.lazyPure fun _ => execute env invocation file
    let stop ← IO.monoNanosNow
    CommandLine.print invocation.log.format ((stop - start).toFloat / 1000000000) report

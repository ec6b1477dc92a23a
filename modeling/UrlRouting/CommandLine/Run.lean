import UrlRouting.Bindings.Json
import UrlRouting.CommandLine.Help
import UrlRouting.Json.Writing
import UrlRouting.Table.Basic
import UrlRouting.Table.Format
import UrlRouting.Telemetry.Filter

/-!
# Running a command

`execute` loads the table and runs the command. It is a function of the arguments, of two settings
of the environment and of what reading the file of the table gives; all that it prints is in its
`Report`.
-/

namespace UrlRouting.CommandLine

open Text

/-- Something that is printed beside the output. -/
inductive Notice where
  /-- Text that ends its line; what it quotes may hold further ends of lines. -/
  | line (text : String)
  /-- An event of the log. -/
  | event (e : Event)
deriving Repr, DecidableEq

/-- What a run of the program comes to. -/
structure Report where
  /-- The exit code. -/
  exit : Nat
  /-- The output. -/
  output : String := ""
  /-- What is printed beside it, in order. -/
  notices : List Notice := []
  /-- What has been counted, where it is asked for. -/
  measurements? : Option (List Measurement) := none

/-- Settings of the environment. -/
structure Environment where
  /-- The file of the table, where no argument names one. -/
  routes? : Option String := none
  /-- The filter of the log. It counts more than the argument. -/
  logFilter? : Option String := none

/-- The exit code of a command that found nothing. -/
def notFound : Nat := 2

/-- The exit code of a failure. -/
def failure : Nat := 1

/-- The exit code of wrong arguments. -/
def wrongUsage : Nat := 2

/-- The filter of the log, and what is said about directives that are none. -/
def chooseFilter (env : Environment) (level : String) : LogFilter × List Notice :=
  match env.logFilter?.bind LogFilter.parse? with
  | some filter => (filter, [])
  | none =>
    (LogFilter.parseSound level,
      (LogFilter.unsound level).map fun (piece, error) =>
        .line ("ignoring \x60" ++ piece ++ "\x60: " ++ error.message))

/-- The events of a trace. -/
def noticesOf {τ : Type} (trace : List (Occurrence τ)) : List Notice :=
  trace.filterMap fun o => o.event?.map .event

/-- The measurements of a trace. -/
def measurementsOf {τ : Type} (trace : List (Occurrence τ)) : List Measurement :=
  trace.filterMap Occurrence.measurement?

/-- A hit as it is printed. -/
def hitText (h : Hit) : String :=
  (Json.object
    [("endpoint", .text h.endpoint.name), ("template", .text h.endpoint.template),
     ("values", h.values.toJson)]).pretty ++ "\n"

/-- What a run of a command on a table comes to, measurements included. -/
def runCommand (t : RouteTable) : Command → Report
  | .matchRequest request =>
    let reply := RouteTable.routeRequest t request
    let report : Report :=
      match reply.ending, RouteTable.hit? reply with
      | .done, some h => { exit := 0, output := hitText h }
      | .done, none =>
        { exit := notFound
          notices := [.line ("no route matched " ++ request.method ++ " " ++ request.path)] }
      | .failed reason, _ =>
        { exit := failure, notices := [.line ("error: " ++ failureMessage reason)] }
      | _, _ => { exit := failure }
    { report with
      notices := noticesOf reply.trace ++ report.notices
      measurements? := some (measurementsOf reply.trace) }
  | .writeLink name? values ambient =>
    let reply := RouteTable.askLink t name? (.ofPairs ambient) (.ofPairs values)
    let report : Report :=
      match reply.link?, name? with
      | some link, _ => { exit := 0, output := link.url ++ "\n" }
      | none, some name =>
        { exit := notFound
          notices := [.line ("no link generated for route '" ++ name ++ "'")] }
      | none, none => { exit := notFound, notices := [.line "no link generated"] }
    { report with
      notices := noticesOf reply.trace ++ report.notices
      measurements? := some (measurementsOf reply.trace) }
  | .showTree => { exit := 0, output := RouteTable.outline t, measurements? := some [] }

/-- A failure with its message. -/
def failWith (notices : List Notice) (message : String) : Report where
  exit := failure
  notices := notices ++ [.line ("error: " ++ message)]

/-- Loads the table of a file: the routes declared and the events until then. -/
def loadRoutes (path : String) (file : Except String String) : Except TableError RouteList :=
  match TableFormat.ofPath? path with
  | none => .error (.unsupported path)
  | some _ =>
    match file with
    | .error reason => .error (.unreadable path reason)
    | .ok text => RouteList.ofFile path text

/-- Runs an invocation. `file` is what reading the file of the table gives: its text or the reason
why it cannot be read. -/
def Invocation.run (i : Invocation) (file : Except String String) : Report :=
  let started : List Notice := [.event (.startup i.log.service "0.1.0")]
  match loadRoutes i.routes file with
  | .error e => failWith started e.message
  | .ok list =>
    let loaded := started
      ++ [.event (.routesLoaded i.routes list.version list.routes.length)]
    match RouteTable.build list with
    | .error e =>
      failWith loaded ("failed to build router from " ++ i.routes ++ ": " ++ e.message)
    | .ok (table, trace) =>
      let report := runCommand table i.command
      { report with
        notices := loaded ++ noticesOf trace ++ report.notices
        measurements? :=
          if i.showsMetrics then
            report.measurements?.map fun ms => measurementsOf trace ++ ms
          else none }

/-- Whether a notice is printed. -/
def isShown (filter : LogFilter) : Notice → Bool
  | .line _ => true
  | .event e => filter.shows e

/-- The report of an interruption. -/
def interrupt (env : Environment) : Interruption → Report
  | .usage => { exit := wrongUsage, notices := [.line "error: wrong arguments, try '--help'"] }
  | .nothingGiven =>
    { exit := wrongUsage, notices := (lines (helpText env.routes? none)).map .line }
  | .unknownTopic name =>
    { exit := wrongUsage
      notices := [.line ("error: unrecognized subcommand '" ++ name ++ "'"), .line "",
        .line helpUsage] }
  | .version => { exit := 0, output := versionText }
  | .help command? => { exit := 0, output := helpText env.routes? command? }

/-- Runs an invocation under the log filter of its settings. -/
def execute (env : Environment) (i : Invocation) (file : Except String String) : Report :=
  let (filter, ignored) := chooseFilter env i.log.level
  let report := i.run file
  { report with notices := ignored ++ report.notices.filter (isShown filter) }

end UrlRouting.CommandLine

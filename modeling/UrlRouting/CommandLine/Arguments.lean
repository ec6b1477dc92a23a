import UrlRouting.Request
import UrlRouting.Telemetry.Settings

/-!
# Arguments of the command line

The arguments name a table, say how to log, and give a command with arguments of its own. Options
are read from left to right: the first thing that is wrong, or the first option that asks for help
or for the version, ends the reading.
-/

namespace UrlRouting.CommandLine

open Text

/-! ### Options -/

/-- An option. -/
structure OptionSpec where
  /-- Its name after two dashes. -/
  name : String
  /-- Its letter after one dash. -/
  letter? : Option Char := none
  /-- What its value is called; an option without a value has none. -/
  valueName? : Option String := none
  /-- Whether it may be given more than once. -/
  isRepeatable : Bool := false
  /-- Which values it takes. -/
  accepts : String → Bool := fun _ => true
  /-- What it is for. -/
  help : String

/-- A command, or the part of the command line in front of it. -/
structure CommandSpec where
  /-- The options. -/
  options : List OptionSpec
  /-- The operand, if there is one: its name and what it is for. -/
  operand? : Option (String × String) := none
  /-- The commands that may follow. -/
  commands : List String := []
  /-- Whether it can tell the version. -/
  hasVersion : Bool := false

/-- What has been given. -/
structure Given where
  /-- Names and values of options in order; an option without a value has the empty one. -/
  options : List (String × String) := []
  /-- The operands in order. -/
  operands : List String := []

/-- What keeps a command from being run. -/
inductive Interruption where
  /-- The arguments are wrong. -/
  | usage
  /-- There are no arguments at all. -/
  | nothingGiven
  /-- Help is asked for on a part of the command for help, which has none. -/
  | unknownTopic (name : String)
  /-- The version is asked for. -/
  | version
  /-- Help is asked for, on a command or on the whole. -/
  | help (command? : Option String)
deriving Repr, DecidableEq

namespace Given

/-- The value of an option. -/
def value? (g : Given) (name : String) : Option String := g.options.lookup name

/-- All values of an option in order. -/
def values (g : Given) (name : String) : List String :=
  (g.options.filter (·.1 == name)).map Prod.snd

/-- Adds an option, unless it takes no such value or must not be repeated. -/
def add (g : Given) (o : OptionSpec) (value : String) : Except Interruption Given :=
  if o.accepts value && (o.isRepeatable || !(g.options.any (·.1 == o.name))) then
    .ok { g with options := g.options ++ [(o.name, value)] }
  else .error .usage

/-- Adds an operand where one may still stand. -/
def addOperand (g : Given) (c : CommandSpec) (text : String) : Except Interruption Given :=
  if c.operand?.isSome && g.operands.isEmpty then .ok { g with operands := [text] }
  else .error .usage

end Given

/-- What an argument in front of which no option waits for a value can be. -/
inductive Argument where
  /-- Two dashes: only operands follow. -/
  | divider
  /-- An option with its value, if one is attached. -/
  | option (o : OptionSpec) (attached? : Option String)
  /-- A request for help. -/
  | help
  /-- A request for the version. -/
  | version
  /-- A command. -/
  | command
  /-- An operand. -/
  | operand
  /-- An option that there is not. -/
  | unknown

/-- Splits a text at its first equals sign. -/
def splitAtEquals (cs : List Char) : List Char × Option (List Char) :=
  match cs.dropWhile (· != '=') with
  | [] => (cs, none)
  | _ :: value => (cs.takeWhile (· != '='), some value)

namespace CommandSpec

/-- The option of a name, with the value attached to it. -/
def longOption (c : CommandSpec) (name : String) (attached? : Option String) : Argument :=
  if name == "help" then if attached?.isNone then .help else .unknown
  else if name == "version" && c.hasVersion then
    if attached?.isNone then .version else .unknown
  else
    match c.options.find? (·.name == name) with
    | some o => .option o attached?
    | none => .unknown

/-- The option of a letter, with the value attached to it. -/
def letterOption (c : CommandSpec) (letter : Char) (attached : List Char) : Argument :=
  if letter == 'h' then .help
  else if letter == 'V' && c.hasVersion then .version
  else
    match c.options.find? (·.letter? == some letter) with
    | some o =>
      .option o (match attached with
        | [] => none
        | '=' :: value => some (String.ofList value)
        | value => some (String.ofList value))
    | none => .unknown

/-- What an argument is. A single dash is an operand. -/
def classify (c : CommandSpec) (text : String) : Argument :=
  if c.commands.contains text then .command
  else
    match text.toList with
    | ['-', '-'] => .divider
    | '-' :: '-' :: cs =>
      let (name, value?) := splitAtEquals cs
      c.longOption (String.ofList name) (value?.map String.ofList)
    | '-' :: letter :: attached => c.letterOption letter attached
    | _ => .operand

end CommandSpec

/-- Whether an argument cannot be the value of an option in front of it. -/
def looksLikeOption (text : String) : Bool :=
  match text.toList with
  | '-' :: _ :: _ => true
  | _ => false

/-- Reads arguments up to a command. Gives what is left from the command on. -/
def readArguments (c : CommandSpec) (onlyOperands : Bool) (g : Given) :
    List String → Except Interruption (Given × List String)
  | [] => .ok (g, [])
  | text :: rest =>
    if onlyOperands then
      match g.addOperand c text with
      | .ok g => readArguments c true g rest
      | .error e => .error e
    else
      match c.classify text with
      | .command => .ok (g, text :: rest)
      | .divider => readArguments c true g rest
      | .help => .error (.help none)
      | .version => .error .version
      | .unknown => .error .usage
      | .operand =>
        match g.addOperand c text with
        | .ok g => readArguments c false g rest
        | .error e => .error e
      | .option o attached? =>
        match o.valueName?, attached?, rest with
        | none, none, rest =>
          match g.add o "" with
          | .ok g => readArguments c false g rest
          | .error e => .error e
        | none, some _, _ => .error .usage
        | some _, some value, rest =>
          match g.add o value with
          | .ok g => readArguments c false g rest
          | .error e => .error e
        | some _, none, value :: rest =>
          if looksLikeOption value then .error .usage
          else
            match g.add o value with
            | .ok g => readArguments c false g rest
            | .error e => .error e
        | some _, none, [] => .error .usage

/-! ### The commands of the program -/

/-- A key and a value, separated by the first equals sign; the key is not empty. -/
def readPair? (s : String) : Option (String × String) :=
  match splitAtEquals s.toList with
  | ([], _) => none
  | (_, none) => none
  | (key, some value) => some (String.ofList key, String.ofList value)

/-- What stands in front of the command. -/
def programSpec : CommandSpec where
  options :=
    [{ name := "routes", letter? := some 'r', valueName? := some "ROUTES"
       accepts := fun s => !s.isEmpty, help := "Route table file (YAML or JSON)" },
     { name := "log-level", valueName? := some "LOG_LEVEL", help := "Log level [default: warn]" },
     { name := "log-format", valueName? := some "LOG_FORMAT"
       accepts := fun s => (LogFormat.parse? s).isSome
       help := "Log format (json or pretty) [default: json]" },
     { name := "metrics", help := "Print Prometheus metrics after the command" }]
  commands := ["match", "link", "tree", "help"]
  hasVersion := true

/-- The command that matches a request. -/
def matchSpec : CommandSpec where
  options :=
    [{ name := "method", letter? := some 'm', valueName? := some "METHOD"
       accepts := fun s => isMethod (upperAscii s), help := "Request method [default: GET]" }]
  operand? := some ("PATH", "Request path, e.g. /api/Products/5")

/-- The command that writes a link. -/
def linkSpec : CommandSpec where
  options :=
    [{ name := "name", letter? := some 'n', valueName? := some "NAME"
       help := "Only try the route with this name" },
     { name := "value", valueName? := some "VALUES", isRepeatable := true
       accepts := fun s => (readPair? s).isSome
       help := "Explicit route value (key=value), repeatable" },
     { name := "ambient", valueName? := some "AMBIENT", isRepeatable := true
       accepts := fun s => (readPair? s).isSome
       help := "Ambient route value of the current request (key=value), repeatable" }]

/-- The command that shows the tries. -/
def treeSpec : CommandSpec where
  options := []

/-! ### Invocations -/

/-- A command with its arguments. -/
inductive Command where
  /-- Match a request. -/
  | matchRequest (request : Request)
  /-- Write a link. -/
  | writeLink (name? : Option String) (values ambient : List (String × String))
  /-- Show the tries. -/
  | showTree
deriving Repr, DecidableEq

/-- What the program is asked to do. -/
structure Invocation where
  /-- The file of the table. -/
  routes : String
  /-- How to log. -/
  log : LogSettings
  /-- Whether to print metrics at the end. -/
  showsMetrics : Bool
  /-- The command. -/
  command : Command

/-- The help that the arguments after the word for help ask for. -/
def helpTopic : List String → Interruption
  | [] => .help none
  | [name] => if programSpec.commands.contains name then .help (some name) else .usage
  | "help" :: name :: _ => .unknownTopic name
  | _ => .usage

/-- Names the command in a request for help. -/
def onCommand {α : Type} (name : String) : Except Interruption α → Except Interruption α
  | .error (.help none) => .error (.help (some name))
  | r => r

/-- Reads the arguments of a command, after which nothing may stand. -/
def readCommandArguments (name : String) (c : CommandSpec) (args : List String) :
    Except Interruption Given :=
  (onCommand name (readArguments c false {} args)).map Prod.fst

/-- Reads a command. -/
def readCommand : List String → Except Interruption Command
  | "match" :: args =>
    match readCommandArguments "match" matchSpec args with
    | .error e => .error e
    | .ok g =>
      match g.operands with
      | path :: _ => .ok (.matchRequest ⟨upperAscii ((g.value? "method").getD "GET"), path⟩)
      | [] => .error .usage
  | "link" :: args =>
    match readCommandArguments "link" linkSpec args with
    | .error e => .error e
    | .ok g =>
      .ok (.writeLink (g.value? "name") ((g.values "value").filterMap readPair?)
        ((g.values "ambient").filterMap readPair?))
  | "tree" :: args =>
    match readCommandArguments "tree" treeSpec args with
    | .error e => .error e
    | .ok _ => .ok .showTree
  | "help" :: args => .error (helpTopic args)
  | _ => .error .usage

/-- Reads all arguments. Where no table is named, `defaultRoutes?` names it. -/
def Invocation.read (defaultRoutes? : Option String) (args : List String) :
    Except Interruption Invocation :=
  match readArguments programSpec false {} args with
  | .error e => .error e
  | .ok (g, rest) =>
    let isNothing := rest.isEmpty && g.options.isEmpty && defaultRoutes?.isNone
    match (if isNothing then .error .nothingGiven else readCommand rest) with
    | .error e => .error e
    | .ok command =>
      match (g.value? "routes").or defaultRoutes? with
      | none => .error .usage
      | some routes =>
        if routes.isEmpty then .error .usage
        else
          .ok
            { routes, command
              log :=
                { level := (g.value? "log-level").getD "warn"
                  format := ((g.value? "log-format").bind LogFormat.parse?).getD .json }
              showsMetrics := (g.value? "metrics").isSome }

end UrlRouting.CommandLine

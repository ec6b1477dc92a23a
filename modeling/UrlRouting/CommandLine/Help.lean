import UrlRouting.CommandLine.Arguments

/-!
# Help on the command line

What the program prints when it is asked for help: what a command does, how it is called, and a
table of its commands, operands and options.
-/

namespace UrlRouting.CommandLine

/-- Rows of two columns, the second one aligned. -/
def columns (rows : List (String × String)) : List String :=
  let width := (rows.map fun row => row.1.length).foldl max 0
  rows.map fun (left, right) =>
    "  " ++ left ++ String.ofList (List.replicate (width - left.length) ' ') ++ "  " ++ right

/-- How an option is written. -/
def OptionSpec.usage (o : OptionSpec) : String :=
  (match o.letter? with
    | some letter => "-" ++ letter.toString ++ ", "
    | none => "    ")
    ++ "--" ++ o.name
    ++ (match o.valueName? with
      | some value => " <" ++ value ++ ">"
      | none => "")

/-- The commands and what they do. -/
def commandRows : List (String × String) :=
  [("match", "Route a request path and print the endpoint that handled it"),
   ("link", "Generate a link from route values"),
   ("tree", "Print the matching trees"),
   ("help", "Print this message or the help of the given subcommand(s)")]

/-- The row of an option. The option that names the table also tells what the environment says. -/
def optionRow (defaultRoutes? : Option String) (o : OptionSpec) : String × String :=
  (o.usage,
   if o.name == "routes" then o.help ++ " [env: SENTIER_ROUTES=" ++ defaultRoutes?.getD "" ++ "]"
   else o.help)

/-- A heading with rows under it, after an empty line; nothing where there are no rows. -/
def block (heading : String) (rows : List (String × String)) : List String :=
  if rows.isEmpty then [] else ["", heading ++ ":"] ++ columns rows

/-- The rows of the options that each command has. -/
def commonRows (hasVersion : Bool) : List (String × String) :=
  [("-h, --help", "Print help")] ++ if hasVersion then [("-V, --version", "Print version")] else []

/-- The page of help on a command. -/
def page (about usage : String) (commands : List (String × String)) (c : CommandSpec)
    (defaultRoutes? : Option String) : String :=
  let lines := [about, "", "Usage: " ++ usage] ++ block "Commands" commands
    ++ block "Arguments" ((c.operand?.map fun (name, help) => ("<" ++ name ++ ">", help)).toList)
    ++ block "Options" (c.options.map (optionRow defaultRoutes?) ++ commonRows c.hasVersion)
  String.join (lines.map (· ++ "\n"))

/-- How the program is called up to the command. -/
def calledWithRoutes : String := "sentier --routes <ROUTES> "

/-- How the command for help is called. -/
def helpUsage : String := "Usage: " ++ calledWithRoutes ++ "help [COMMAND]..."

/-- What a command does. -/
def aboutCommand (name : String) : String := (commandRows.lookup name).getD ""

/-- Help on a command, or on the whole. -/
def helpText (defaultRoutes? : Option String) : Option String → String
  | some "match" =>
    page (aboutCommand "match") (calledWithRoutes ++ "match [OPTIONS] <PATH>") [] matchSpec
      defaultRoutes?
  | some "link" =>
    page (aboutCommand "link") (calledWithRoutes ++ "link [OPTIONS]") [] linkSpec defaultRoutes?
  | some "tree" =>
    page (aboutCommand "tree") (calledWithRoutes ++ "tree") [] treeSpec defaultRoutes?
  | some "help" =>
    aboutCommand "help" ++ "\n\n" ++ helpUsage ++ "\n\n"
      ++ "Arguments:\n  [COMMAND]...  Print help for the subcommand(s)\n"
  | _ =>
    page "Sentier route table tool" "sentier [OPTIONS] --routes <ROUTES> <COMMAND>" commandRows
      programSpec defaultRoutes?

/-- What the program says about its version. -/
def versionText : String := "sentier 0.1.0\n"

end UrlRouting.CommandLine

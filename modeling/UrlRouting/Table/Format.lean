import UrlRouting.Json.Reading
import UrlRouting.Route.Declaration
import UrlRouting.Text.Splitting
import UrlRouting.Yaml.Reading

/-!
# Files of route tables

A table is written in one of two formats, which the extension of its file tells apart.
-/

namespace UrlRouting

open Text

/-- The format of a table. -/
inductive TableFormat where
  /-- YAML. -/
  | yaml
  /-- JSON. -/
  | json
deriving Repr, DecidableEq

/-- Why a table cannot be had from a file. -/
inductive TableError where
  /-- The file cannot be read. -/
  | unreadable (path reason : String)
  /-- The text of the file is no table. -/
  | malformed (path : String)
  /-- The extension of the file names no format. -/
  | unsupported (path : String)
deriving Repr, DecidableEq

/-- The wording of an error. -/
def TableError.message : TableError → String
  | unreadable path reason => "failed to read " ++ path ++ ": " ++ reason
  | malformed path => "failed to parse " ++ path ++ ": not a route table"
  | unsupported path =>
    "unsupported route table format: " ++ path ++ " (expected .yaml, .yml or .json)"

/-- The last component of a path, if it names a file. -/
def fileName? (path : String) : Option (List Char) :=
  let components := (splitAt (· == '/') path.toList).filter fun part => part != [] && part != ['.']
  components.getLast?.filter (· != ['.', '.'])

/-- The extension of a file: what follows the last point of its name, unless the name begins with
that point. -/
def extension? (path : String) : Option String :=
  (fileName? path).bind fun name =>
    let beforeLast := (name.reverse.dropWhile (· != '.')).drop 1
    if beforeLast.isEmpty then none
    else some (String.ofList (name.reverse.takeWhile (· != '.')).reverse)

namespace TableFormat

/-- The format that the extension of a path names in any case of ASCII. -/
def ofPath? (path : String) : Option TableFormat :=
  match (extension? path).map fun e => String.ofList (e.toList.map Char.toLower) with
  | some "yaml" => some yaml
  | some "yml" => some yaml
  | some "json" => some json
  | _ => none

/-- The document of a text. -/
def document? (text : String) : TableFormat → Option Document
  | yaml => Yaml.parse? text
  | json => (Json.parse? text).map Json.toDocument

end TableFormat

namespace RouteList

/-- Reads the table of a file. -/
def ofFile (path text : String) : Except TableError RouteList :=
  match TableFormat.ofPath? path with
  | none => .error (.unsupported path)
  | some format =>
    match (format.document? text).bind ofDocument? with
    | some table => .ok table
    | none => .error (.malformed path)

end RouteList

end UrlRouting

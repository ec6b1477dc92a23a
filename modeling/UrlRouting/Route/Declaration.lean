import UrlRouting.Constraint.Catalog
import UrlRouting.Document.Basic
import UrlRouting.Json.Basic
import UrlRouting.Route.Entry
import UrlRouting.Template.Reading

/-!
# Declarations of routes

A `Declaration` is a route as it stands in a route table. `Declaration.compile` makes the two
entries of the route from it, `Declaration.ofDocument?` and `Declaration.toJson` read and write
it.
-/

namespace UrlRouting

open Text

/-- A declared route. -/
structure Declaration where
  /-- The text of the template. -/
  template : String
  /-- Routes of lower order are matched first. -/
  order : Int := 0
  /-- The name of the route. -/
  name? : Option String := none
  /-- Values that hold where nothing else is given. -/
  defaults : TextMap String := .empty
  /-- What the link entry asks for: no text for a value that must not be given, `*` for any
  value. -/
  requiredValues : TextMap (Option String) := .empty
  /-- Constraints beside those of the template, as text. -/
  constraints : TextMap String := .empty
  /-- The methods of the route; none allows all. -/
  methods : List String := []
  /-- The group of the route. -/
  group? : Option String := none

/-- A table of routes. -/
structure RouteList where
  /-- The version of the router that is built from the table. -/
  version : Int := 1
  /-- The routes in order. -/
  routes : List Declaration := []

namespace Declaration

/-! ### Compiling -/

/-- The name under which the methods of a route are checked. -/
def methodKey : String := "httpmethod"

/-- The defaults as route values. -/
def defaultBindings (d : Declaration) : Bindings := .ofPairs d.defaults.items

/-- The requirement that is written as a text or as none. -/
def requirementOf : Option String → Requirement
  | none => .absent
  | some "*" => .any
  | some text => .exact text

/-- What the link entry asks for. -/
def requirements (d : Declaration) : Requirements :=
  d.requiredValues.items.foldl
    (fun rs (name, value) => Requirements.add name (requirementOf value) rs) []

/-- Adds declared constraints to those of the template. Two constraints of one name both
count. -/
def addConstraints (catalog : ConstraintCatalog) (t : Template) (map : ConstraintMap) :
    List (String × String) → Except BuildError ConstraintMap
  | [] => .ok map
  | (name, text) :: rest =>
    match catalog.resolve ⟨text⟩ with
    | .error e => .error e
    | .ok made =>
      let c := ConstraintCatalog.forParameter ((t.parameter? name).any (·.isOptional)) made
      let c := match map.get? (fold name) with
        | some present => .all [present, c]
        | none => c
      addConstraints catalog t (map.insert (fold name, c)) rest

/-- The methods of a route in upper case, up to the first text that is none. -/
def readMethods : List String → Except BuildError (List String)
  | [] => .ok []
  | m :: rest =>
    if isMethod (upperAscii m) then
      match readMethods rest with
      | .ok methods => .ok (upperAscii m :: methods)
      | .error e => .error e
    else .error (.invalidMethod m)

/-- All constraints of a route. -/
def compileConstraints (d : Declaration) (catalog : ConstraintCatalog) (t : Template) :
    Except BuildError ConstraintMap :=
  match catalog.resolveTemplate t with
  | .error e => .error e
  | .ok map =>
    match addConstraints catalog t map d.constraints.items with
    | .error e => .error e
    | .ok map =>
      if d.methods.isEmpty then .ok map
      else
        match readMethods d.methods with
        | .ok methods => .ok (map.insert (methodKey, .method methods))
        | .error e => .error e

/-- The entries of a route that leads to a target. -/
def compile {τ : Type} (d : Declaration) (catalog : ConstraintCatalog) (target : τ) :
    Except BuildError (Inbound τ × Outbound) :=
  match Template.parse d.template with
  | .error cause => .error (.template d.template cause)
  | .ok t =>
    match d.compileConstraints catalog t with
    | .error e => .error e
    | .ok constraints =>
      let pattern := RoutePattern.ofTemplate t d.defaultBindings
      .ok
        ({ order := d.order, name? := d.name?, pattern, constraints, target },
         { name? := d.name?, pattern, constraints, requirements := d.requirements
           group? := d.group? })

/-! ### Reading and writing -/

/-- The fields of a declaration in order. -/
def fields : List String :=
  ["template", "order", "name", "defaults", "required_values", "constraints", "methods",
    "route_group"]

/-- The whole number of 32 bits of a document that can be one. -/
def readInt32 (d : Document) : Option Int :=
  d.int?.filter (fitsHalf half32)

/-- Reads a declaration. -/
def ofDocument? (d : Document) : Option Declaration := do
  let record ← d.record? fields
  let template ← (record.get? "template").bind Document.text?
  let order ← Document.field? record "order" 0 readInt32
  let name? ← Document.field? record "name" none Document.optionalText?
  let defaults ← Document.field? record "defaults" .empty (Document.textMap? Document.text?)
  let requiredValues ←
    Document.field? record "required_values" .empty (Document.textMap? Document.optionalText?)
  let constraints ←
    Document.field? record "constraints" .empty (Document.textMap? Document.text?)
  let methods ← Document.field? record "methods" [] (Document.listOf? Document.text?)
  let group? ← Document.field? record "route_group" none Document.optionalText?
  return { template, order, name?, defaults, requiredValues, constraints, methods, group? }

/-- A text, or `null`. -/
def optionalJson (s? : Option String) : Json := (s?.map Json.text).getD .null

/-- A declaration with all its fields. -/
def toJson (d : Declaration) : Json :=
  .object
    [("template", .text d.template), ("order", .int d.order), ("name", optionalJson d.name?),
     ("defaults", .object (d.defaults.items.map fun (k, v) => (k, .text v))),
     ("required_values",
       .object (d.requiredValues.items.map fun (k, v) => (k, optionalJson v))),
     ("constraints", .object (d.constraints.items.map fun (k, v) => (k, .text v))),
     ("methods", .array (d.methods.map .text)), ("route_group", optionalJson d.group?)]

end Declaration

namespace RouteList

/-- Reads a table. -/
def ofDocument? (d : Document) : Option RouteList := do
  let record ← d.record? ["version", "routes"]
  let version ← Document.field? record "version" 1 Declaration.readInt32
  let routes ← Document.field? record "routes" [] (Document.listOf? Declaration.ofDocument?)
  return { version, routes }

/-- A table with all its fields. -/
def toJson (l : RouteList) : Json :=
  .object [("version", .int l.version), ("routes", .array (l.routes.map Declaration.toJson))]

end RouteList

end UrlRouting

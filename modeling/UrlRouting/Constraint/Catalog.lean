import UrlRouting.Constraint.Basic
import UrlRouting.Regex.Reading
import UrlRouting.Route.Error
import UrlRouting.Template.Basic

/-!
# The catalog of constraints

Constraints are written as a name with an argument in parentheses. A `ConstraintCatalog` knows
how to make a constraint from the argument of each name; names are compared without regard to
case. `ConstraintCatalog.stock` knows the constraints of this library.
-/

namespace UrlRouting

open Text

/-- Makes a constraint from its argument. -/
abbrev ConstraintMaker := Option String → Except BuildError Constraint

/-- What is known under each folded name. -/
structure ConstraintCatalog where
  /-- The makers under their folded names. -/
  makers : TextMap ConstraintMaker

/-! ### Arguments -/

/-- The argument of a constraint that needs one. -/
def needArgument (constraint : String) : Option String → Except BuildError String
  | some text => .ok text
  | none => .error (.missingArgument constraint)

/-- Reads a number, with blanks around it. -/
def readArgument {α : Type} (read? : String → Option α) (constraint text : String) :
    Except BuildError α :=
  match read? (trimBlanks text) with
  | some n => .ok n
  | none => .error (.notANumber constraint text)

/-- Reads the one number of an argument. -/
def readOne {α : Type} (read? : String → Option α) (constraint : String)
    (argument? : Option String) : Except BuildError α :=
  match needArgument constraint argument? with
  | .ok text => readArgument read? constraint text
  | .error e => .error e

/-- Reads the two numbers of an argument, which its first comma separates. -/
def readTwo {α : Type} (read? : String → Option α) (constraint : String)
    (argument? : Option String) : Except BuildError (α × α) :=
  match needArgument constraint argument? with
  | .error e => .error e
  | .ok text =>
    match text.toList.dropWhile (· != ',') with
    | [] => .error (.missingComma constraint)
    | _ :: second =>
      match readArgument read? constraint (String.ofList (text.toList.takeWhile (· != ','))),
          readArgument read? constraint (String.ofList second) with
      | .ok a, .ok b => .ok (a, b)
      | .error e, _ => .error e
      | _, .error e => .error e

/-! ### The stock -/

/-- Two lengths, or one that counts for both. -/
def makeLength : ConstraintMaker := fun argument? =>
  match readTwo readLength? "length" argument? with
  | .ok (low, high) => .ok (.length low high)
  | .error _ =>
    match readOne readLength? "length" argument? with
    | .ok n => .ok (.length n n)
    | .error e => .error e

/-- A search pattern in which case does not count. -/
def makeRegex : ConstraintMaker
  | none => .error .missingPattern
  | some pattern =>
    match Regex.parse { ignoreCase := true } pattern with
    | .ok r => .ok (.regex r)
    | .error e => .error (.invalidPattern e)

/-- The constraints of this library under their names. -/
def stockMakers : List (String × ConstraintMaker) :=
  [("int", fun _ => .ok .int),
   ("long", fun _ => .ok .long),
   ("bool", fun _ => .ok .bool),
   ("alpha", fun _ => .ok .alpha),
   ("required", fun _ => .ok .required),
   ("minlength", fun a => (readOne readLength? "minlength" a).map .minLength),
   ("maxlength", fun a => (readOne readLength? "maxlength" a).map .maxLength),
   ("length", makeLength),
   ("min", fun a => (readOne readInt64? "min" a).map .atLeast),
   ("max", fun a => (readOne readInt64? "max" a).map .atMost),
   ("range", fun a => (readTwo readInt64? "range" a).map fun (low, high) => .between low high),
   ("regex", makeRegex)]

namespace ConstraintCatalog

/-- A catalog that knows nothing. -/
def empty : ConstraintCatalog := ⟨.empty⟩

/-- Adds a maker, in place of the one of the same name. -/
def register (catalog : ConstraintCatalog) (name : String) (maker : ConstraintMaker) :
    ConstraintCatalog :=
  ⟨catalog.makers.insert (fold name, maker)⟩

/-- The catalog of the constraints of this library. -/
def stock : ConstraintCatalog :=
  stockMakers.foldl (fun catalog (name, maker) => catalog.register name maker) empty

/-- Makes the constraint that a text names. -/
def resolve (catalog : ConstraintCatalog) (c : InlineConstraint) : Except BuildError Constraint :=
  match catalog.makers.get? (fold c.name) with
  | some maker => maker c.argument?
  | none => .error (.unknownConstraint c.name)

/-- Makes the constraints that some texts name, up to the first one that fails. -/
def resolveAll (catalog : ConstraintCatalog) :
    List InlineConstraint → Except BuildError (List Constraint)
  | [] => .ok []
  | c :: cs =>
    match catalog.resolve c with
    | .error e => .error e
    | .ok made =>
      match catalog.resolveAll cs with
      | .error e => .error e
      | .ok others => .ok (made :: others)

/-- One constraint for several: the only one itself, else all of them. -/
def combine : List Constraint → Constraint
  | [c] => c
  | cs => .all cs

/-- A constraint as it holds for a parameter: without a value it does not bind an optional
one. -/
def forParameter (isOptional : Bool) (c : Constraint) : Constraint :=
  if isOptional then .optional c else c

/-- Adds the constraints of parameters to a map, up to the first one that fails. -/
def resolveParameters (catalog : ConstraintCatalog) (map : ConstraintMap) :
    List Parameter → Except BuildError ConstraintMap
  | [] => .ok map
  | p :: rest =>
    if p.isConstrained then
      match catalog.resolveAll p.constraints with
      | .error e => .error e
      | .ok made =>
        catalog.resolveParameters
          (map.insert (fold p.name, forParameter p.isOptional (combine made))) rest
    else catalog.resolveParameters map rest

/-- The constraints written in a template, one for each parameter that has some. -/
def resolveTemplate (catalog : ConstraintCatalog) (t : Template) :
    Except BuildError ConstraintMap :=
  catalog.resolveParameters .empty t.parameters

end ConstraintCatalog

end UrlRouting

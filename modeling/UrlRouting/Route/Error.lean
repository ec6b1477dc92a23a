import UrlRouting.Regex.Error
import UrlRouting.Template.Error

/-!
# What can be wrong with a route

One constructor a cause, and the wording of each in `message`.
-/

namespace UrlRouting

/-- Why routes do not make a router. -/
inductive BuildError where
  /-- The text of a template is none. -/
  | template (text : String) (cause : TemplateError)
  /-- No constraint has this name. -/
  | unknownConstraint (name : String)
  /-- A constraint has no argument and needs one. -/
  | missingArgument (constraint : String)
  /-- A text in the argument of a constraint is no number. -/
  | notANumber (constraint text : String)
  /-- The argument of a constraint needs two numbers and has no comma. -/
  | missingComma (constraint : String)
  /-- A search constraint has no pattern. -/
  | missingPattern
  /-- The pattern of a search constraint is none. -/
  | invalidPattern (cause : Regex.SyntaxError)
  /-- Two routes have one name and different templates. -/
  | duplicateRouteName (name first second : String)
  /-- A text cannot be a method. -/
  | invalidMethod (text : String)
deriving Repr, DecidableEq

namespace BuildError

/-- The wording for a bad argument. -/
def argumentMessage (constraint reason : String) : String :=
  "invalid argument for constraint " ++ inQuotes constraint ++ ": " ++ reason

/-- The wording of an error. -/
def message : BuildError → String
  | template text cause => "invalid route template " ++ inQuotes text ++ ": " ++ cause.message
  | unknownConstraint name => "unknown route constraint " ++ inQuotes name
  | missingArgument c => argumentMessage c "missing argument"
  | notANumber c text => argumentMessage c (inQuotes text ++ " is not a number")
  | missingComma c => argumentMessage c "expected two comma-separated values"
  | missingPattern => argumentMessage "regex" "missing pattern"
  | invalidPattern cause => argumentMessage "regex" cause.message
  | duplicateRouteName name first second =>
    "route name " ++ inQuotes name ++ " is used by both " ++ inQuotes first ++ " and "
      ++ inQuotes second
  | invalidMethod text => "invalid HTTP method " ++ inQuotes text

end BuildError

end UrlRouting

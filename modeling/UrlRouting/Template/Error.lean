/-!
# What can be wrong with a template

One constructor a cause, and the wording of each in `message`.
-/

namespace UrlRouting

/-- Why a text is no template. -/
inductive TemplateError where
  /-- Two slashes with nothing between them. -/
  | emptySegment
  /-- A brace without its partner in a segment. -/
  | unbalancedBrace (segment : String)
  /-- A parameter of a segment that has no name. -/
  | emptyParameterName (segment : String)
  /-- A parameter name with a character that names may not hold. -/
  | invalidParameterName (name : String)
  /-- A second parameter of one name. -/
  | duplicateParameter (name : String)
  /-- A catch-all parameter with a segment after it. -/
  | catchAllNotLast (name : String)
  /-- A catch-all parameter beside other parts of its segment. -/
  | catchAllInComplexSegment (name : String)
  /-- An optional parameter beside other parts of its segment. -/
  | optionalInComplexSegment (name : String)
  /-- Two parameters of a segment with nothing between them. -/
  | adjacentParameters (segment : String)
  /-- An optional parameter that has a default. -/
  | optionalWithDefault (name : String)
  /-- A catch-all parameter that is marked optional. -/
  | optionalCatchAll (name : String)
deriving Repr, DecidableEq

/-- A text between single quotes. -/
def inQuotes (s : String) : String := "'" ++ s ++ "'"

namespace TemplateError

/-- The wording of an error. -/
def message : TemplateError → String
  | emptySegment => "template contains an empty segment"
  | unbalancedBrace s => "unbalanced braces in segment " ++ inQuotes s
  | emptyParameterName s => "parameter with an empty name in segment " ++ inQuotes s
  | invalidParameterName n => "invalid parameter name " ++ inQuotes n
  | duplicateParameter n => "parameter " ++ inQuotes n ++ " appears more than once"
  | catchAllNotLast n => "catch-all parameter " ++ inQuotes n ++ " must be in the last segment"
  | catchAllInComplexSegment n =>
    "catch-all parameter " ++ inQuotes n ++ " cannot share a segment with other parts"
  | optionalInComplexSegment n =>
    "optional parameter " ++ inQuotes n ++ " cannot share a segment with other parts"
  | adjacentParameters s =>
    "parameters in segment " ++ inQuotes s ++ " must be separated by a literal"
  | optionalWithDefault n =>
    "parameter " ++ inQuotes n ++ " cannot be optional and have a default value"
  | optionalCatchAll n => "catch-all parameter " ++ inQuotes n ++ " cannot be marked optional"

end TemplateError

end UrlRouting

import UrlRouting.Text.Folding

/-!
# Route templates

A template is a list of segments, a segment a list of parts, and a part either literal text
or a parameter. `Template.ofSegments` writes the text of a template from its segments;
reading a template from its text is the business of `Template.Reading`.
-/

namespace UrlRouting

open Text

/-- A constraint written inside a parameter, such as `int` or `range(1,10)`. -/
structure InlineConstraint where
  /-- The text between the colons. -/
  text : String
deriving Repr, DecidableEq

namespace InlineConstraint

/-- The text before the first opening parenthesis. -/
def name (c : InlineConstraint) : String := String.ofList (c.text.toList.takeWhile (· != '('))

/-- The text after the first opening parenthesis, without one closing parenthesis at its
end; none where nothing is opened. -/
def argument? (c : InlineConstraint) : Option String :=
  match c.text.toList.dropWhile (· != '(') with
  | [] => none
  | _ :: inner =>
    some (String.ofList (if inner.getLast? = some ')' then inner.dropLast else inner))

end InlineConstraint

/-- A named place of a template. -/
structure Parameter where
  /-- The name that the value is bound to. -/
  name : String
  /-- Takes the rest of the path. -/
  isCatchAll : Bool := false
  /-- May go without a value. -/
  isOptional : Bool := false
  /-- The value where the path gives none. -/
  default? : Option String := none
  /-- What values are admitted, in the order in which it was written. -/
  constraints : List InlineConstraint := []
deriving Repr, DecidableEq

/-- A piece of a segment. -/
inductive Part where
  /-- Text that has to be there. -/
  | literal (text : String)
  /-- A place for a value. -/
  | parameter (p : Parameter)
deriving Repr, DecidableEq

/-- What stands between two slashes of a template. -/
abbrev Segment := List Part

/-- A route template. -/
structure Template where
  /-- The text of the template, without slashes at its ends. -/
  text : String
  /-- The segments in order. -/
  segments : List Segment
deriving Repr, DecidableEq

/-- Writes every brace of a literal twice. -/
def escapeBraces (cs : List Char) : List Char :=
  cs.flatMap fun c => if c = '\x7b' ∨ c = '\x7d' then [c, c] else [c]

/-- Whether some inline constraint is given. -/
def Parameter.isConstrained (p : Parameter) : Bool := !p.constraints.isEmpty

/-- The text of a parameter, braces included. -/
def Parameter.render (p : Parameter) : String :=
  "\x7b" ++ (if p.isCatchAll then "*" else "") ++ p.name
    ++ String.join (p.constraints.map fun c => ":" ++ c.text)
    ++ (match p.default? with | some value => "=" ++ value | none => "")
    ++ (if p.isOptional then "?" else "") ++ "\x7d"

namespace Part

/-- The parameter of a part that is one. -/
def parameter? : Part → Option Parameter
  | literal _ => none
  | parameter p => some p

/-- The text of a part. -/
def render : Part → String
  | literal text => String.ofList (escapeBraces text.toList)
  | parameter p => p.render

end Part

namespace Segment

/-- The parameters of a segment in order. -/
def parameters (s : Segment) : List Parameter := s.filterMap Part.parameter?

/-- The parameter of a segment that is nothing else. -/
def soleParameter? : Segment → Option Parameter
  | [.parameter p] => some p
  | _ => none

/-- The text of a segment. -/
def render (s : Segment) : String := String.join (s.map Part.render)

end Segment

namespace Template

/-- The template of some segments, with the text that its segments give. -/
def ofSegments (segments : List Segment) : Template where
  text := "/".intercalate (segments.map Segment.render)
  segments := segments

/-- All parameters in order. -/
def parameters (t : Template) : List Parameter := t.segments.flatMap Segment.parameters

/-- The first parameter of a name, whatever its case. -/
def parameter? (t : Template) (name : String) : Option Parameter :=
  t.parameters.find? fun p => sameText p.name name

end Template

end UrlRouting

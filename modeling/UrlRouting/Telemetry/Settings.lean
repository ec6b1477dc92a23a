import UrlRouting.Text.Folding

/-!
# Settings of logs

Under which name a program logs, up to which level and in which form.
-/

namespace UrlRouting

open Text

/-- The form of a log. -/
inductive LogFormat where
  /-- A JSON object a line. -/
  | json
  /-- Lines for the eye. -/
  | pretty
deriving Repr, DecidableEq

namespace LogFormat

/-- The form that a word names in any case. -/
def parse? (s : String) : Option LogFormat :=
  match fold s with
  | "json" => some json
  | "pretty" => some pretty
  | _ => none

/-- The word for a form. -/
def label : LogFormat → String
  | json => "json"
  | pretty => "pretty"

end LogFormat

/-- Settings of a log. -/
structure LogSettings where
  /-- The name under which the program logs. -/
  service : String := "sentier"
  /-- Which events are shown: a level, or directives that name parts of the program. -/
  level : String := "info"
  /-- The form. -/
  format : LogFormat := .json
deriving Repr, DecidableEq

end UrlRouting

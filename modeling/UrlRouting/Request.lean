/-!
# Requests

What the router looks at in a request: its method and its path.
-/

namespace UrlRouting

/-- A request. -/
structure Request where
  /-- The method, in the case in which it was sent. -/
  method : String
  /-- The path. -/
  path : String
deriving Repr, DecidableEq

/-- Characters that may stand in a method besides ASCII letters and digits. -/
def methodSigns : List Char :=
  ['!', '#', '$', '%', '&', '\'', '*', '+', '-', '.', '^', '_', '\x60', '|', '~']

/-- Whether a text can be a method: one or more letters, digits and signs of ASCII. -/
def isMethod (s : String) : Bool :=
  !s.isEmpty && s.toList.all fun c => c.isAlphanum || methodSigns.contains c

/-- A text with its ASCII letters in upper case. -/
def upperAscii (s : String) : String := String.ofList (s.toList.map Char.toUpper)

/-- Which way the router is used. -/
inductive Direction where
  /-- A request is matched. -/
  | incoming
  /-- A link is written. -/
  | generation
deriving Repr, DecidableEq

/-- The name of a direction in logs and metrics. -/
def Direction.label : Direction → String
  | incoming => "incoming"
  | generation => "generation"

end UrlRouting

import UrlRouting.Constraint.Basic
import UrlRouting.RoutePattern.Basic
import UrlRouting.Template.Rank

/-!
# Entries of a router

A route is registered twice: as an `Inbound` entry, under which requests are matched, and as
an `Outbound` entry, from which links are written. An outbound entry says which values it has
to be asked with.
-/

namespace UrlRouting

open Text

/-- An entry for requests, leading to a target of type `τ`. -/
structure Inbound (τ : Type) where
  /-- Entries of lower order are tried first. -/
  order : Int
  /-- The name of the route. -/
  name? : Option String
  /-- The template with its defaults. -/
  pattern : RoutePattern
  /-- The constraints under folded names. -/
  constraints : ConstraintMap
  /-- What handles the request. -/
  target : τ

/-- What a link entry asks of a value. -/
inductive Requirement where
  /-- It is this text, up to case. -/
  | exact (text : String)
  /-- It is not empty. -/
  | any
  /-- It is not given. -/
  | absent
deriving Repr, DecidableEq

/-- What a link entry asks of the values, in the order in which it was registered. Names are
compared without regard to case. -/
abbrev Requirements := List (String × Requirement)

namespace Requirements

/-- Adds a requirement; one of the same name is replaced where it stands, under its first
spelling. -/
def add (name : String) (r : Requirement) : Requirements → Requirements
  | [] => [(name, r)]
  | (n, r') :: rest =>
    if sameText n name then (n, r) :: rest else (n, r') :: add name r rest

/-- What is asked of a name. -/
def get? (rs : Requirements) (name : String) : Option Requirement :=
  (rs.find? fun (n, _) => sameText n name).map Prod.snd

/-- Whether something is asked of a name. -/
def mentions (rs : Requirements) (name : String) : Bool := (get? rs name).isSome

end Requirements

/-- An entry for links. -/
structure Outbound where
  /-- The name of the route. -/
  name? : Option String
  /-- The template with its defaults. -/
  pattern : RoutePattern
  /-- The constraints under folded names. -/
  constraints : ConstraintMap
  /-- The values that the entry has to be asked with. -/
  requirements : Requirements
  /-- The group of the route, handed on with the values. -/
  group? : Option String

namespace Inbound

variable {τ : Type}

/-- The text of the template. -/
def templateText (e : Inbound τ) : String := e.pattern.template.text

end Inbound

namespace Outbound

/-- The text of the template. -/
def templateText (e : Outbound) : String := e.pattern.template.text

end Outbound

end UrlRouting

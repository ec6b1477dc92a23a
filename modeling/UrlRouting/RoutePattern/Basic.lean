import UrlRouting.Bindings
import UrlRouting.Template.Basic

/-!
# Templates with defaults

A `RoutePattern` is a template together with the values that hold where nothing else is
given. A default written inside the template counts more than one given beside it.
-/

namespace UrlRouting

/-- A template with default values. -/
structure RoutePattern where
  /-- The template. -/
  template : Template
  /-- All defaults, those written in the template included. -/
  defaults : Bindings

namespace RoutePattern

/-- The pattern of a template and the defaults given beside it. -/
def ofTemplate (t : Template) (given : Bindings) : RoutePattern where
  template := t
  defaults := t.parameters.foldl
    (fun all p => match p.default? with
      | some value => all.bind p.name value
      | none => all) given

/-- Whether a segment can go without a piece of the path: it is an optional parameter, a
catch-all or a parameter with a default. -/
def bindsWithoutPiece (r : RoutePattern) (s : Segment) : Bool :=
  match Segment.soleParameter? s with
  | some p => p.isOptional || p.isCatchAll || r.defaults.has p.name
  | none => false

end RoutePattern

end UrlRouting

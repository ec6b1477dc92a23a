import UrlRouting.Route.Declaration
import UrlRouting.Router.Basic

/-!
# Drafts of routers

A `Draft` collects entries, and `Draft.build` makes a router from them: one trie for each order,
the index of link entries and the first link entry of each name. Two link entries may share a
name only if they share their template.
-/

namespace UrlRouting

open Text

/-- Entries of a router to be. -/
structure Draft (τ ν : Type) where
  /-- The receiver that the router will ask about links. -/
  next : ν
  /-- The entries for requests in the order in which they were added. -/
  inbound : List (Inbound τ) := []
  /-- The entries for links in the order in which they were added. -/
  outbound : List Outbound := []

/-- Registers the first entry of each name, up to the first entry whose name belongs to another
template. -/
def registerNames (named : TextMap Outbound) :
    List Outbound → Except BuildError (TextMap Outbound)
  | [] => .ok named
  | e :: rest =>
    match e.name? with
    | none => registerNames named rest
    | some name =>
      match named.get? (fold name) with
      | none => registerNames (named.insert (fold name, e)) rest
      | some first =>
        if sameText first.templateText e.templateText then registerNames named rest
        else .error (.duplicateRouteName name first.templateText e.templateText)

/-- The tries of some entries, one for each order, in ascending order. -/
def triesOf {τ : Type} (es : List (Inbound τ)) : List (Trie τ) :=
  ((es.map (·.order)).eraseDups.mergeSort fun a b => decide (a ≤ b)).map fun order =>
    .ofEntries order (es.filter (·.order == order))

namespace Draft

variable {τ ν : Type}

/-- Adds an entry for requests. -/
def addInbound (d : Draft τ ν) (e : Inbound τ) : Draft τ ν := { d with inbound := d.inbound ++ [e] }

/-- Adds an entry for links. -/
def addOutbound (d : Draft τ ν) (e : Outbound) : Draft τ ν :=
  { d with outbound := d.outbound ++ [e] }

/-- Adds both entries of a route that leads to a target. -/
def addRoute (d : Draft τ ν) (catalog : ConstraintCatalog) (route : Declaration) (target : τ) :
    Except BuildError (Draft τ ν) :=
  match route.compile catalog target with
  | .ok (inbound, outbound) => .ok ((d.addInbound inbound).addOutbound outbound)
  | .error e => .error e

/-- Drops all entries. -/
def clear (d : Draft τ ν) : Draft τ ν := { next := d.next }

/-- What is counted and told when a router has been built. -/
def builtTrace (d : Draft τ ν) (version : Int) : List (Occurrence τ) :=
  [.measured (.built d.inbound.length),
   .logged
    (.routerBuilt version (triesOf d.inbound).length d.inbound.length d.outbound.length)]

/-- Makes a router. The draft keeps its entries. -/
def build (d : Draft τ ν) (version : Int) : Except BuildError (Router τ ν) :=
  match registerNames .empty d.outbound with
  | .error e => .error e
  | .ok named =>
    .ok
      { next := d.next, tries := triesOf d.inbound, links := .ofEntries d.outbound, named,
        version }

end Draft

end UrlRouting

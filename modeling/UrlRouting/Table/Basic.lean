import UrlRouting.Router.Draft
import UrlRouting.Router.Linking
import UrlRouting.Router.Routing
import UrlRouting.Trie.Outline

/-!
# Route tables

A `RouteTable` is a router for the routes of a table. Each route leads to an endpoint of its own,
which handles every request, and all links are accepted.
-/

namespace UrlRouting

/-- Where a route of a table leads. -/
structure Endpoint where
  /-- The name of the route, or its template where it has none. -/
  name : String
  /-- The template as it was declared. -/
  template : String
deriving Repr, DecidableEq

/-- A router for the routes of a table. -/
abbrev RouteTable := Router Endpoint Unit

/-- What an endpoint saw of the request that it handled. -/
structure Hit where
  /-- The endpoint. -/
  endpoint : Endpoint
  /-- The values of the request. -/
  values : Bindings

namespace Endpoint

/-- The endpoint of a route. -/
def ofDeclaration (d : Declaration) : Endpoint where
  name := d.name?.getD d.template
  template := d.template

/-- An endpoint handles every request. -/
def respond (_ : Endpoint) (context : RouteContext Endpoint) : Reply Endpoint :=
  ⟨{ context with isHandled := true }, .done, []⟩

end Endpoint

namespace RouteTable

/-- All links are accepted. -/
def receive (_ : Unit) (_ : LinkRequest) : LinkReply Endpoint := ⟨none, true, .answered, []⟩

/-- Adds routes to a draft one after another, up to the first that cannot be added. -/
def addRoutes (d : Draft Endpoint Unit) : List Declaration → Except BuildError (Draft Endpoint Unit)
  | [] => .ok d
  | route :: rest =>
    match d.addRoute .stock route (.ofDeclaration route) with
    | .ok d => addRoutes d rest
    | .error e => .error e

/-- Builds a table, and tells what is told and counted then. -/
def build (l : RouteList) : Except BuildError (RouteTable × List (Occurrence Endpoint)) :=
  match addRoutes { next := () } l.routes with
  | .error e => .error e
  | .ok draft =>
    match draft.build l.version with
    | .error e => .error e
    | .ok router => .ok (router, draft.builtTrace l.version)

/-- A request before it is routed. -/
def contextOf (request : Request) : RouteContext Endpoint where
  request := request
  data := { values := .empty, targets := [] }
  isHandled := false

/-- Routes a request. -/
def routeRequest (t : RouteTable) (request : Request) : Reply Endpoint :=
  t.route Endpoint.respond (contextOf request)

/-- The endpoint that handled a request, which is the innermost target, and what it saw. -/
def hit? (reply : Reply Endpoint) : Option Hit :=
  if reply.context.isHandled then
    reply.context.data.targets.getLast?.map fun endpoint =>
      { endpoint, values := reply.context.data.values }
  else none

/-- Asks for a link. -/
def askLink (t : RouteTable) (name? : Option String) (ambient values : Bindings) :
    LinkReply Endpoint :=
  t.link receive
    { request := ⟨"GET", "/"⟩, ambient, values, name?, provided? := none }

/-- The outlines of all tries. -/
def outline (t : RouteTable) : String := String.join (t.tries.map Trie.outline)

end RouteTable

end UrlRouting

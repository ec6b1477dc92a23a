import UrlRouting.Router.Draft
import UrlRouting.Session.Script

/-!
# Sessions

A session builds routers from drafts and uses them. It performs one `Step` after another, and one
registry takes the measurements of all its routers.
-/

namespace UrlRouting

/-- A session. -/
structure Session where
  /-- The constraints that routes may name. -/
  catalog : ConstraintCatalog
  /-- The entries of the router that is built next. -/
  draft : Draft Target Receiver
  /-- The routers built so far. -/
  routers : List SessionRouter
  /-- What has been counted. -/
  registry : Registry

/-- Something that a session does. -/
inductive Step where
  /-- Begins a new draft. -/
  | begin (next : Receiver) (catalog : ConstraintCatalog)
  /-- Adds both entries of a route. -/
  | addRoute (route : Declaration) (target : Target)
  /-- Adds an entry for requests. -/
  | addInbound (entry : Inbound Target)
  /-- Adds an entry for links. -/
  | addOutbound (entry : Outbound)
  /-- Drops the entries of the draft. -/
  | clear
  /-- Builds a router. -/
  | build (version : Int)
  /-- Routes a request. -/
  | route (router : Nat) (context : RouteContext Target)
  /-- Asks for a link. -/
  | link (router : Nat) (question : LinkRequest)

/-- What comes of a step. -/
inductive Answer where
  /-- The draft has so many entries. -/
  | drafted (inbound outbound : Nat)
  /-- A router has been built. -/
  | built (index : Nat) (router : SessionRouter)
  /-- The routes do not make a router. -/
  | refused (cause : BuildError)
  /-- A request has been routed. -/
  | routed (reply : Reply Target)
  /-- A link has been asked for. -/
  | linked (reply : LinkReply Target)
  /-- There is no router of this number. -/
  | noRouter

namespace Session

/-- A session that has done nothing. -/
def start (next : Receiver) (catalog : ConstraintCatalog) : Session where
  catalog := catalog
  draft := { next }
  routers := []
  registry := .empty

/-- Calls a target. A router refers only to earlier ones, so no call goes deeper than there are
routers. -/
def respond (s : Session) : Target → RouteContext Target → Reply Target :=
  respondWith s.routers s.routers.length

/-- Asks a receiver. -/
def receive (s : Session) : Receiver → LinkRequest → LinkReply Target :=
  receiveWith s.routers s.routers.length

/-- Takes the measurements of a trace. Requests are taken to need no time. -/
def record (s : Session) (trace : List (Occurrence Target)) : Session :=
  { s with registry := s.registry.recordAll 0 (trace.filterMap Occurrence.measurement?) }

/-- The answer that tells how many entries a draft has. -/
def drafted (s : Session) : Answer := .drafted s.draft.inbound.length s.draft.outbound.length

/-- What a step does but for taking measurements, with all that happens. -/
def act (s : Session) : Step → Session × Answer × List (Occurrence Target)
  | .begin next catalog =>
    let s := { s with catalog, draft := { next } }
    (s, s.drafted, [])
  | .addRoute route target =>
    match s.draft.addRoute s.catalog route target with
    | .ok draft =>
      let s := { s with draft }
      (s, s.drafted, [])
    | .error e => (s, .refused e, [])
  | .addInbound entry =>
    let s := { s with draft := s.draft.addInbound entry }
    (s, s.drafted, [])
  | .addOutbound entry =>
    let s := { s with draft := s.draft.addOutbound entry }
    (s, s.drafted, [])
  | .clear =>
    let s := { s with draft := s.draft.clear }
    (s, s.drafted, [])
  | .build version =>
    match s.draft.build version with
    | .ok router =>
      ({ s with routers := s.routers ++ [router] }, .built s.routers.length router,
        s.draft.builtTrace version)
    | .error e => (s, .refused e, [])
  | .route index context =>
    match s.routers[index]? with
    | some router =>
      let reply := router.route s.respond context
      (s, .routed reply, reply.trace)
    | none => (s, .noRouter, [])
  | .link index question =>
    match s.routers[index]? with
    | some router =>
      let reply := router.link s.receive question
      (s, .linked reply, reply.trace)
    | none => (s, .noRouter, [])

/-- Performs a step. -/
def perform (s : Session) (step : Step) : Session × Answer × List (Occurrence Target) :=
  let (after, answer, trace) := s.act step
  (after.record trace, answer, trace)

/-- Performs steps one after another. -/
def performAll (s : Session) (steps : List Step) : Session :=
  steps.foldl (fun s step => (s.perform step).1) s

end Session

end UrlRouting

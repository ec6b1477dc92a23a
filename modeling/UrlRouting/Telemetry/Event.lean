import UrlRouting.Json.Basic

/-!
# Log events

What the router tells a log. An event has a name, a level and a message, and fields of its
own; `Event.fields` lists them in the order in which they are written.
-/

namespace UrlRouting

/-- How important an event is, from the most to the least. -/
inductive Level where
  /-- Something failed. -/
  | error
  /-- Something may be wrong. -/
  | warn
  /-- A step of the program. -/
  | info
  /-- The outcome of a request or a link. -/
  | debug
  /-- A step on the way to an outcome. -/
  | trace
deriving Repr, DecidableEq

namespace Level

/-- The name of a level in a log. -/
def label : Level → String
  | error => "ERROR"
  | warn => "WARN"
  | info => "INFO"
  | debug => "DEBUG"
  | trace => "TRACE"

/-- How much a log that shows events up to this level shows. -/
def verbosity : Level → Nat
  | error => 1
  | warn => 2
  | info => 3
  | debug => 4
  | trace => 5

end Level

/-- Something worth telling a log. -/
inductive Event where
  /-- The program starts. -/
  | startup (service version : String)
  /-- A route table has been read. -/
  | routesLoaded (path : String) (version : Int) (routes : Nat)
  /-- A router has been built. -/
  | routerBuilt (version : Int) (trees matchingEntries generationEntries : Nat)
  /-- A request has been handled. -/
  | routeMatched (path template : String) (order : Int) (routeName : String) (candidates : Nat)
  /-- No entry has handled a request. -/
  | routeNotFound (path : String) (candidates : Nat)
  /-- A constraint is not content with a value. -/
  | constraintRejected (routeKey constraint value direction : String)
  /-- A link has been written. -/
  | linkGenerated (path template routeName : String)
  /-- No link could be written. -/
  | linkGenerationFailed (routeName values : String)
  /-- The target of an entry has failed. -/
  | handlerError (path template error : String)
deriving Repr, DecidableEq

namespace Event

/-- The name of an event. -/
def name : Event → String
  | startup .. => "startup"
  | routesLoaded .. => "routes_loaded"
  | routerBuilt .. => "router_built"
  | routeMatched .. => "route_matched"
  | routeNotFound .. => "route_not_found"
  | constraintRejected .. => "constraint_rejected"
  | linkGenerated .. => "link_generated"
  | linkGenerationFailed .. => "link_generation_failed"
  | handlerError .. => "handler_error"

/-- The level of an event. -/
def level : Event → Level
  | startup .. => .info
  | routesLoaded .. => .info
  | routerBuilt .. => .info
  | routeMatched .. => .debug
  | routeNotFound .. => .debug
  | constraintRejected .. => .trace
  | linkGenerated .. => .debug
  | linkGenerationFailed .. => .debug
  | handlerError .. => .warn

/-- The message of an event. -/
def message : Event → String
  | startup .. => "Starting sentier"
  | routesLoaded .. => "Route table loaded"
  | routerBuilt .. => "Tree router built"
  | routeMatched .. => "Request matched route"
  | routeNotFound .. => "No route handled the request"
  | constraintRejected .. => "Route value rejected by constraint"
  | linkGenerated .. => "Link generated"
  | linkGenerationFailed .. => "No route could generate a link"
  | handlerError .. => "Route target failed"

/-- The part of the program that an event comes from; log filters name it. -/
def source : Event → String
  | startup .. => "sentier"
  | routesLoaded .. => "sentier"
  | routerBuilt .. => "sentier_router::builder"
  | constraintRejected .. => "sentier_router::constraints"
  | _ => "sentier_router::tree_router"

/-- The fields that are an event's own. -/
def details : Event → List (String × Json)
  | startup service version => [("service", .text service), ("version", .text version)]
  | routesLoaded path version routes =>
    [("path", .text path), ("version", .int version), ("routes", .int routes)]
  | routerBuilt version trees matching generation =>
    [("version", .int version), ("trees", .int trees), ("matching_entries", .int matching),
     ("generation_entries", .int generation)]
  | routeMatched path template order routeName candidates =>
    [("path", .text path), ("template", .text template), ("order", .int order),
     ("route_name", .text routeName), ("candidates", .int candidates)]
  | routeNotFound path candidates => [("path", .text path), ("candidates", .int candidates)]
  | constraintRejected key constraint value direction =>
    [("route_key", .text key), ("constraint", .text constraint), ("value", .text value),
     ("direction", .text direction)]
  | linkGenerated path template routeName =>
    [("path", .text path), ("template", .text template), ("route_name", .text routeName)]
  | linkGenerationFailed routeName values =>
    [("route_name", .text routeName), ("values", .text values)]
  | handlerError path template error =>
    [("path", .text path), ("template", .text template), ("error", .text error)]

/-- All fields of an event, level and message included. -/
def fields (e : Event) : List (String × Json) :=
  [("level", .text e.level.label), ("message", .text e.message), ("event", .text e.name)]
    ++ e.details

/-- The names of the fields that a log filter can ask for: all but the level. -/
def fieldNames (e : Event) : List String :=
  ["message", "event"] ++ e.details.map Prod.fst

end Event

end UrlRouting

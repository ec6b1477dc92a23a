import UrlRouting.LinkIndex.Basic
import UrlRouting.Telemetry.Event
import UrlRouting.Telemetry.Metrics
import UrlRouting.Trie.Basic

/-!
# Routers

A `Router` leads requests to targets of a type `τ` and asks a receiver of a type `ν` whether a
link may be written. Targets and receivers are called by functions that are given with the
request, so that a router can itself be a target or a receiver of another one. What happens on
the way (targets called, events, measurements) is a list of `Occurrence`s in order.
-/

namespace UrlRouting

open Text

/-! ### Requests -/

/-- What a request gathers on its way. -/
structure RouteData (τ : Type) where
  /-- The values bound so far. -/
  values : Bindings
  /-- The targets that the request was led to, outermost first. -/
  targets : List τ

/-- A request on its way. -/
structure RouteContext (τ : Type) where
  /-- The request. -/
  request : Request
  /-- What it has gathered. -/
  data : RouteData τ
  /-- Whether a target has accepted it. -/
  isHandled : Bool

/-- How a call ends. -/
inductive Ending where
  /-- It comes back. -/
  | done
  /-- It comes back with a failure. -/
  | failed (reason : String)
  /-- It never comes back, and is given up. -/
  | hung
  /-- It breaks down. -/
  | panicked
deriving Repr, DecidableEq

/-! ### Links -/

/-- What a link is asked for with. -/
structure LinkRequest where
  /-- The request during which the link is asked for. -/
  request : Request
  /-- The values of that request. -/
  ambient : Bindings
  /-- The values asked with. -/
  values : Bindings
  /-- The name of the route, if one is asked for. -/
  name? : Option String
  /-- The values that an outer router hands on. -/
  provided? : Option Bindings

/-- A link. -/
structure Link where
  /-- The URL. -/
  url : String
  /-- The template that it was written from, where that is known. -/
  template? : Option String
deriving Repr, DecidableEq

/-! ### Traces -/

/-- Something that happens while a router works. -/
inductive Occurrence (τ : Type) where
  /-- A target is called. -/
  | called (target : τ) (data : RouteData τ)
  /-- A receiver is asked about a link. -/
  | asked (question : LinkRequest)
  /-- An event is told to the log. -/
  | logged (event : Event)
  /-- A measurement is taken. -/
  | measured (measurement : Measurement)

namespace Occurrence

variable {τ : Type}

/-- The event of an occurrence that is one. -/
def event? : Occurrence τ → Option Event
  | logged e => some e
  | _ => none

/-- The measurement of an occurrence that is one. -/
def measurement? : Occurrence τ → Option Measurement
  | measured m => some m
  | _ => none

/-- The question of an occurrence that is one. -/
def question? : Occurrence τ → Option LinkRequest
  | asked q => some q
  | _ => none

/-- The event and the measurement of a rejected value. -/
def ofRejection (r : Rejection) : List (Occurrence τ) :=
  [measured (.rejected r.constraint r.direction.label),
   logged (.constraintRejected r.key r.constraint r.value r.direction.label)]

end Occurrence

/-- What comes of a call with a request. -/
structure Reply (τ : Type) where
  /-- The request after the call. -/
  context : RouteContext τ
  /-- How the call ended. -/
  ending : Ending
  /-- What happened. -/
  trace : List (Occurrence τ)

/-- How it ends to ask for a link. -/
inductive LinkEnding where
  /-- There is an answer. -/
  | answered
  /-- A receiver breaks down. -/
  | panicked
deriving Repr, DecidableEq

/-- What comes of asking for a link. -/
structure LinkReply (τ : Type) where
  /-- The link, if one was written. -/
  link? : Option Link
  /-- Whether the values were accepted. -/
  isBound : Bool
  /-- How it ended. -/
  ending : LinkEnding
  /-- What happened. -/
  trace : List (Occurrence τ)

/-! ### Routers -/

/-- A router. -/
structure Router (τ ν : Type) where
  /-- The receiver that is asked about each link. -/
  next : ν
  /-- The tries, in ascending order. -/
  tries : List (Trie τ)
  /-- The entries for links. -/
  links : LinkIndex
  /-- The first entry for links of each folded name. -/
  named : TextMap Outbound
  /-- The version given when it was built. -/
  version : Int

namespace Router

variable {τ ν : Type}

/-- A router in one line. -/
def summary (r : Router τ ν) : String :=
  "TreeRouter \x7b version: " ++ decimal r.version ++ ", trees: " ++ decimal r.tries.length
    ++ ", named_entries: " ++ decimal r.named.size ++ " \x7d"

end Router

end UrlRouting

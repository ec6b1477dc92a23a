import UrlRouting.Router.Linking
import UrlRouting.Router.Routing

/-!
# Scripted targets and receivers

Targets that do one fixed thing with every request, and receivers that give one fixed answer to
every link or break down. Either may also be a router: the routers of a session are numbered in the
order in which they were built, and a router refers only to earlier ones, so that calls end.
-/

namespace UrlRouting

/-- What a scripted target does. -/
inductive Behaviour where
  /-- Handles the request. -/
  | handle
  /-- Does nothing. -/
  | decline
  /-- Changes the gathered data and does not handle the request. -/
  | mutate
  /-- Fails. -/
  | fail
  /-- Handles the request and then fails. -/
  | handleAndFail
  /-- Never comes back. -/
  | hang
  /-- Breaks down. -/
  | panic
deriving Repr, DecidableEq

/-- A target of a session. -/
inductive Target where
  /-- A target that follows a script. -/
  | scripted (name : String) (behaviour : Behaviour)
  /-- The router of a number. -/
  | router (index : Nat)
deriving Repr, DecidableEq

/-- A receiver of a session. -/
inductive Receiver where
  /-- Accepts all values. -/
  | accept
  /-- Accepts none. -/
  | reject
  /-- Answers with a URL of its own. -/
  | url (text : String)
  /-- Accepts values that bind all of some names. -/
  | names (required : List String)
  /-- Breaks down. -/
  | panic
  /-- The router of a number. -/
  | router (index : Nat)
deriving Repr, DecidableEq

/-- A router of a session. -/
abbrev SessionRouter := Router Target Receiver

namespace Target

/-- The name of a target. -/
def name : Target → String
  | scripted name _ => name
  | router index => "router " ++ Text.decimal index

/-- The name of a target that follows a script. -/
def scriptedName? : Target → Option String
  | scripted name _ => some name
  | router _ => none

end Target

namespace Behaviour

/-- What a scripted target makes of a request. -/
def reply (name : String) (context : RouteContext Target) : Behaviour → Reply Target
  | handle => ⟨{ context with isHandled := true }, .done, []⟩
  | decline => ⟨context, .done, []⟩
  | mutate =>
    ⟨{ context with data := { values := context.data.values.bind "mutated" name, targets := [] } },
      .done, []⟩
  | fail => ⟨context, .failed (name ++ " failed"), []⟩
  | handleAndFail => ⟨{ context with isHandled := true }, .failed (name ++ " failed"), []⟩
  | hang => ⟨context, .hung, []⟩
  | panic => ⟨context, .panicked, []⟩

end Behaviour

/-- Calls a target. Routers are looked up `depth` levels deep. -/
def respondWith (routers : List SessionRouter) : Nat → Target → RouteContext Target → Reply Target
  | _, .scripted name behaviour, context => behaviour.reply name context
  | 0, .router _, context => ⟨context, .done, []⟩
  | depth + 1, .router index, context =>
    match routers[index]? with
    | some r => r.routeAsTarget (respondWith routers depth) context
    | none => ⟨context, .done, []⟩

/-- Asks a receiver. Routers are looked up `depth` levels deep. -/
def receiveWith (routers : List SessionRouter) :
    Nat → Receiver → LinkRequest → LinkReply Target
  | _, .accept, q => ⟨none, true, .answered, [.asked q]⟩
  | _, .reject, q => ⟨none, false, .answered, [.asked q]⟩
  | _, .url text, q => ⟨some { url := text, template? := none }, false, .answered, [.asked q]⟩
  | _, .names required, q =>
    ⟨none, q.provided?.any fun provided => required.all provided.has, .answered, [.asked q]⟩
  | _, .panic, q => ⟨none, false, .panicked, [.asked q]⟩
  | 0, .router _, _ => ⟨none, false, .answered, []⟩
  | depth + 1, .router index, q =>
    match routers[index]? with
    | some r => r.link (receiveWith routers depth) q
    | none => ⟨none, false, .answered, []⟩

end UrlRouting

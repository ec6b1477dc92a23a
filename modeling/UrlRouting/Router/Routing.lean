import UrlRouting.RoutePattern.Fitting
import UrlRouting.Router.Basic
import UrlRouting.Trie.Walk

/-!
# Routing requests

`Router.route` tries the candidates of its tries one after another. A candidate whose template
does not fit the path or whose constraints are not content is passed over; the target of any
other is called. The first target that handles the request ends the search, and so does one that
fails, hangs or panics. What a target that does not handle the request has done to the gathered
data is undone.
-/

namespace UrlRouting

/-- What the failure of a target is called by the router that called it. -/
def failureMessage (reason : String) : String := "route handler failed: " ++ reason

/-- A reply with occurrences in front of its own. -/
def Reply.after {τ : Type} (trace : List (Occurrence τ)) (reply : Reply τ) : Reply τ :=
  { reply with trace := trace ++ reply.trace }

namespace Router

variable {τ ν : Type}

/-- The candidates for a path, each with the order of its trie. -/
def candidates (r : Router τ ν) (path : UrlPath) : List (Int × Inbound τ) :=
  r.tries.flatMap fun t => (t.candidates path).map fun e => (t.order, e)

/-- What the target of an entry sees: the gathered data with the values read off the path and
the target itself. -/
def enter (data : RouteData τ) (target : τ) (values : Bindings) : RouteData τ where
  values := data.values.merge values
  targets := data.targets ++ [target]

/-- Calls a target with data of its own, and brings back the earlier data unless the request has
been handled. -/
def dispatch (respond : τ → RouteContext τ → Reply τ) (context : RouteContext τ) (target : τ)
    (data : RouteData τ) : Reply τ :=
  let reply := respond target { context with data }
  { reply with
    context :=
      if reply.context.isHandled then reply.context
      else { reply.context with data := context.data }
    trace := .called target data :: reply.trace }

/-- What is told and counted when a request has been routed. -/
def routedTrace (event : Event) (outcome : String) (tried : Nat) : List (Occurrence τ) :=
  [.logged event, .measured (.routed outcome tried)]

/-- Tries candidates in order; `tried` says how many have been tried before. -/
def tryCandidates (respond : τ → RouteContext τ → Reply τ) (path : UrlPath) (tried : Nat)
    (context : RouteContext τ) : List (Int × Inbound τ) → Reply τ
  | [] =>
    { context, ending := .done
      trace := routedTrace (.routeNotFound context.request.path tried) "not_found" tried }
  | (order, e) :: rest =>
    match e.pattern.fit? path with
    | none => tryCandidates respond path (tried + 1) context rest
    | some values =>
      let data := enter context.data e.target values
      match firstRejection? e.constraints ⟨context.request, data.values, .incoming⟩ with
      | some rejection =>
        (tryCandidates respond path (tried + 1) context rest).after
          (Occurrence.ofRejection rejection)
      | none =>
        let reply := dispatch respond context e.target data
        match reply.ending with
        | .done =>
          if reply.context.isHandled then
            { reply with
              trace := reply.trace
                ++ routedTrace
                  (.routeMatched reply.context.request.path e.templateText order
                    (e.name?.getD "") (tried + 1))
                  "matched" (tried + 1) }
          else
            (tryCandidates respond path (tried + 1) reply.context rest).after reply.trace
        | .failed reason =>
          { reply with
            trace := reply.trace
              ++ routedTrace (.handlerError reply.context.request.path e.templateText reason)
                "error" (tried + 1) }
        | .hung => reply
        | .panicked => reply

/-- Routes a request. -/
def route (r : Router τ ν) (respond : τ → RouteContext τ → Reply τ)
    (context : RouteContext τ) : Reply τ :=
  let path := UrlPath.ofString context.request.path
  tryCandidates respond path 0 context (r.candidates path)

/-- Routes a request on behalf of another router: a failure is reported in the words of this
one. -/
def routeAsTarget (r : Router τ ν) (respond : τ → RouteContext τ → Reply τ)
    (context : RouteContext τ) : Reply τ :=
  let reply := r.route respond context
  match reply.ending with
  | .failed reason => { reply with ending := .failed (failureMessage reason) }
  | _ => reply

end Router

end UrlRouting

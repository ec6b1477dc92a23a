import UrlRouting.RoutePattern.Filling
import UrlRouting.Router.Basic

/-!
# Writing links

`Router.link` tries the entries that a link request leads to: the one of the name asked for, or
those whose requirements the values meet. An entry writes a link if its template can be filled,
its constraints are content and the receiver of the router accepts the values; a receiver may
also answer with a link of its own. If the receiver breaks down, so does the router, which then
neither tells nor counts the request.
-/

namespace UrlRouting

open Text

/-- The name under which the group of an entry is handed to the receiver. -/
def groupKey : String := "!__route_group"

namespace Outbound

/-- The values of a link request that are data for the template. A value that was needed only to
find the entry is none. -/
def inputOf (e : Outbound) (values : Bindings) : Bindings :=
  values.filter fun b =>
    !e.requirements.mentions b.name || (e.pattern.template.parameter? b.name).isSome

/-- The values handed to the receiver. -/
def provide (e : Outbound) (accepted : Bindings) : Bindings :=
  match e.group? with
  | some group => accepted.bind groupKey group
  | none => accepted

end Outbound

/-- What comes of trying entries. -/
structure LinkAttempt (τ : Type) where
  /-- The link, if one was written. -/
  link? : Option Link
  /-- How it ended. -/
  ending : LinkEnding
  /-- What happened. -/
  trace : List (Occurrence τ)

/-- Whether other entries are tried: there is no link, and no receiver has broken down. -/
def LinkAttempt.goesOn {τ : Type} (attempt : LinkAttempt τ) : Bool :=
  attempt.link?.isNone && decide (attempt.ending = .answered)

/-- An attempt with occurrences in front of its own. -/
def LinkAttempt.after {τ : Type} (trace : List (Occurrence τ)) (attempt : LinkAttempt τ) :
    LinkAttempt τ :=
  { attempt with trace := trace ++ attempt.trace }

namespace Router

variable {τ ν : Type}

/-- Writes the link of an entry, unless the receiver answers with one of its own. -/
def writeLink (receive : ν → LinkRequest → LinkReply τ) (r : Router τ ν) (q : LinkRequest)
    (e : Outbound) : LinkAttempt τ :=
  match e.pattern.select? q.ambient (e.inputOf q.values) with
  | none => { link? := none, ending := .answered, trace := [] }
  | some selection =>
    match firstRejection? e.constraints ⟨q.request, selection.combined, .generation⟩ with
    | some rejection =>
      { link? := none, ending := .answered, trace := Occurrence.ofRejection rejection }
    | none =>
      let reply := receive r.next { q with provided? := some (e.provide selection.accepted) }
      match reply.ending with
      | .panicked => { link? := none, ending := .panicked, trace := reply.trace }
      | .answered =>
        match reply.link? with
        | some link => { link? := some link, ending := .answered, trace := reply.trace }
        | none =>
          { link? :=
              if reply.isBound then
                (e.pattern.write? selection.accepted).map fun url =>
                  { url, template? := some e.templateText }
              else none
            ending := .answered
            trace := reply.trace }

/-- Tries entries in order up to the first that gives a link or whose receiver breaks down. -/
def firstLink (receive : ν → LinkRequest → LinkReply τ) (r : Router τ ν) (q : LinkRequest) :
    List Outbound → LinkAttempt τ
  | [] => { link? := none, ending := .answered, trace := [] }
  | e :: rest =>
    let attempt := r.writeLink receive q e
    if attempt.goesOn then (r.firstLink receive q rest).after attempt.trace else attempt

/-- The entries that a link request leads to. Where a name is asked for, only its own. -/
def entriesFor (r : Router τ ν) (q : LinkRequest) : List Outbound :=
  match q.name? with
  | some name => (r.named.get? (fold name)).toList
  | none => (r.links.candidates q.ambient q.values).map (·.entry)

/-- The event of a link request. -/
def linkEvent (q : LinkRequest) : Option Link → Event
  | some link => .linkGenerated link.url (link.template?.getD "") (q.name?.getD "")
  | none => .linkGenerationFailed (q.name?.getD "") q.values.listing

/-- Writes a link. -/
def link (r : Router τ ν) (receive : ν → LinkRequest → LinkReply τ) (q : LinkRequest) :
    LinkReply τ :=
  let attempt := r.firstLink receive q (r.entriesFor q)
  match attempt.ending with
  | .panicked => { link? := none, isBound := false, ending := .panicked, trace := attempt.trace }
  | .answered =>
    { link? := attempt.link?, isBound := attempt.link?.isSome, ending := .answered
      trace := attempt.trace
        ++ [.logged (linkEvent q attempt.link?),
          .measured (.linked q.name?.isSome attempt.link?.isSome)] }

end Router

end UrlRouting

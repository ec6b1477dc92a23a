import UrlRouting.Proofs.Router.Isolation
import UrlRouting.Router.Draft
import UrlRouting.Router.Linking

/-!
# What happens to requests and links

What a router does is said here apart from what it tells and counts. `Router.fates` says what has
become of each candidate of a request, and `outcome?` how the request has ended by this;
`Router.linkFates` and `linkOutcome?` do the same for links. Which entries are rejected, and by
which constraint, is read off the templates, the values and the constraints of the entries. A
`History` is a list of all that has happened, the calls of routers further inside included. The
measurements in the trace of a request, of a link or of a router that is built are those of its
history (`Router.measurements_route`, `Router.measurements_link`, `Draft.measurements_buildTrace`),
provided that this is so for the targets and receivers that are called (`Calling`).
-/

namespace UrlRouting

variable {τ ν : Type}

/-! ### Fates of candidates -/

/-- What becomes of a candidate. -/
inductive Fate (τ : Type) where
  /-- The path does not fit its template. -/
  | unfit
  /-- A constraint of this name is not content. -/
  | rejected (constraint : String)
  /-- Its target is called. -/
  | called (target : τ) (seen : RouteContext τ) (ending : Ending) (isHandled : Bool)

namespace Fate

/-- Whether the path does not fit. -/
def isUnfit : Fate τ → Bool
  | unfit => true
  | _ => false

/-- Whether a constraint is not content. -/
def isRejected : Fate τ → Bool
  | rejected _ => true
  | _ => false

/-- Whether the target is called. -/
def isCalled : Fate τ → Bool
  | called .. => true
  | _ => false

/-- The target that is called and the data that it sees. -/
def call? : Fate τ → Option (τ × RouteData τ)
  | called target seen _ _ => some (target, seen.data)
  | _ => none

end Fate

/-- How many entries have been tried: those that do not fit, those that are rejected and those that
are called. -/
def tried (fates : List (Fate τ)) : Nat :=
  fates.countP Fate.isUnfit + fates.countP Fate.isRejected + fates.countP Fate.isCalled

theorem tried_eq_length (fates : List (Fate τ)) : tried fates = fates.length := by
  unfold tried
  induction fates with
  | nil => rfl
  | cons fate fates ih =>
    cases fate <;> simp [List.countP_cons, Fate.isUnfit, Fate.isRejected, Fate.isCalled] <;> omega

/-- How a request ends for a router that comes back. -/
inductive Outcome where
  /-- A target has handled it. -/
  | matched
  /-- All candidates have been tried. -/
  | notFound
  /-- A target has failed. -/
  | error
deriving Repr, DecidableEq

/-- The name of an outcome in metrics. -/
def Outcome.label : Outcome → String
  | matched => "matched"
  | notFound => "not_found"
  | error => "error"

/-- The outcome of a request by the fates of the candidates. There is none where a target does not
come back. -/
def outcome? : List (Fate τ) → Option Outcome
  | [] => some .notFound
  | .called _ _ .done true :: _ => some .matched
  | .called _ _ (.failed _) _ :: _ => some .error
  | .called _ _ .hung _ :: _ => none
  | .called _ _ .panicked _ :: _ => none
  | _ :: fates => outcome? fates

namespace Router

/-- What becomes of candidates that are tried in order. A target that declines leaves the request to
the next one, with the data from before the call. -/
def fatesOf (respond : τ → RouteContext τ → Reply τ) (path : UrlPath) (context : RouteContext τ) :
    List (Int × Inbound τ) → List (Fate τ)
  | [] => []
  | (_, e) :: rest =>
    if (e.pattern.fit? path).isNone then .unfit :: fatesOf respond path context rest
    else
      let seen := { context with data := e.entered path context.data }
      match e.constraints.denied? ⟨context.request, seen.data.values, .incoming⟩ with
      | some (_, c) => .rejected c.name :: fatesOf respond path context rest
      | none =>
        let reply := respond e.target seen
        .called e.target seen reply.ending reply.context.isHandled ::
          if reply.declines then
            fatesOf respond path { reply.context with data := context.data } rest
          else []

/-- What becomes of the candidates for a request. -/
def fates (r : Router τ ν) (respond : τ → RouteContext τ → Reply τ) (context : RouteContext τ) :
    List (Fate τ) :=
  fatesOf respond (.ofString context.request.path) context
    (r.candidates (.ofString context.request.path))

/-- What comes of candidates that are tried in order, step by step: their fates, and the reply. -/
inductive Run (respond : τ → RouteContext τ → Reply τ) : Nat → RouteContext τ →
    List (Int × Inbound τ) → List (Fate τ) → Reply τ → Prop where
  /-- No candidate is left. -/
  | exhausted {tried : Nat} {context : RouteContext τ} (event : Event) :
      Run respond tried context [] [] ⟨context, .done, routedTrace event "not_found" tried⟩
  /-- The path does not fit. -/
  | unfit {tried : Nat} {context : RouteContext τ} {c : Int × Inbound τ}
      {rest : List (Int × Inbound τ)} {fates : List (Fate τ)} {later : Reply τ}
      (goesOn : Run respond (tried + 1) context rest fates later) :
      Run respond tried context (c :: rest) (.unfit :: fates) later
  /-- A constraint is not content. -/
  | rejected {tried : Nat} {context : RouteContext τ} {c : Int × Inbound τ}
      {rest : List (Int × Inbound τ)} {fates : List (Fate τ)} {later : Reply τ}
      (rejection : Rejection) (incoming : rejection.direction = .incoming)
      (goesOn : Run respond (tried + 1) context rest fates later) :
      Run respond tried context (c :: rest) (.rejected rejection.constraint :: fates)
        (later.after (Occurrence.ofRejection rejection))
  /-- The target declines. -/
  | declined {tried : Nat} {context : RouteContext τ} {c : Int × Inbound τ}
      {rest : List (Int × Inbound τ)} {fates : List (Fate τ)} {reply later : Reply τ}
      (data : RouteData τ) (called : dispatch respond context c.2.target data = reply)
      (done : reply.ending = .done) (isOpen : reply.context.isHandled = false)
      (goesOn : Run respond (tried + 1) reply.context rest fates later) :
      Run respond tried context (c :: rest)
        (.called c.2.target { context with data } .done false :: fates) (later.after reply.trace)
  /-- The target handles the request. -/
  | handled {tried : Nat} {context : RouteContext τ} {c : Int × Inbound τ}
      {rest : List (Int × Inbound τ)} {reply : Reply τ} (data : RouteData τ) (event : Event)
      (called : dispatch respond context c.2.target data = reply) (done : reply.ending = .done)
      (isHandled : reply.context.isHandled = true) :
      Run respond tried context (c :: rest) [.called c.2.target { context with data } .done true]
        { reply with trace := reply.trace ++ routedTrace event "matched" (tried + 1) }
  /-- The target fails. -/
  | failed {tried : Nat} {context : RouteContext τ} {c : Int × Inbound τ}
      {rest : List (Int × Inbound τ)} {reply : Reply τ} (data : RouteData τ) (event : Event)
      (called : dispatch respond context c.2.target data = reply) {reason : String}
      (fails : reply.ending = .failed reason) :
      Run respond tried context (c :: rest)
        [.called c.2.target { context with data } (.failed reason) reply.context.isHandled]
        { reply with trace := reply.trace ++ routedTrace event "error" (tried + 1) }
  /-- The target does not come back. -/
  | lost {tried : Nat} {context : RouteContext τ} {c : Int × Inbound τ}
      {rest : List (Int × Inbound τ)} {reply : Reply τ} (data : RouteData τ)
      (called : dispatch respond context c.2.target data = reply) {ending : Ending}
      (ends : reply.ending = ending) (isLost : ending = .hung ∨ ending = .panicked) :
      Run respond tried context (c :: rest)
        [.called c.2.target { context with data } ending reply.context.isHandled] reply

/-- A router tries its candidates in such steps. -/
theorem run_fatesOf (respond : τ → RouteContext τ → Reply τ) (path : UrlPath) (tried : Nat)
    (context : RouteContext τ) (candidates : List (Int × Inbound τ)) :
    Run respond tried context candidates (fatesOf respond path context candidates)
      (tryCandidates respond path tried context candidates) := by
  induction candidates generalizing tried context with
  | nil => exact .exhausted _
  | cons c rest ih =>
    obtain ⟨order, e⟩ := c
    rw [fatesOf, tryCandidates]
    cases hfit : e.pattern.fit? path with
    | none => exact .unfit (ih _ _)
    | some values =>
      dsimp only [Option.isNone_some]
      rw [if_neg Bool.false_ne_true, e.enter_eq_entered hfit]
      cases hdenied : e.constraints.denied?
          ⟨context.request, (e.entered path context.data).values, .incoming⟩ with
      | some denied =>
        obtain ⟨rejection, hrejection, -, hname, -, hincoming⟩ := firstRejection?_of_denied? hdenied
        rw [hrejection]
        dsimp only
        rw [← hname]
        exact .rejected rejection hincoming (ih _ _)
      | none =>
        rw [firstRejection?_of_denied?_eq_none hdenied]
        dsimp only
        obtain ⟨⟨⟨request, left, isHandled⟩, ending, trace⟩, hreply⟩ : ∃ reply,
            respond e.target { context with data := e.entered path context.data } = reply :=
          ⟨_, rfl⟩
        have hdispatch : dispatch respond context e.target (e.entered path context.data) =
            ⟨⟨request, if isHandled then left else context.data, isHandled⟩, ending,
              .called e.target (e.entered path context.data) :: trace⟩ := by
          rw [dispatch, hreply]
          cases isHandled <;> rfl
        rw [hreply, hdispatch]
        cases ending with
        | done =>
          cases isHandled with
          | true => exact .handled (c := (order, e)) _ _ hdispatch rfl rfl
          | false => exact .declined (c := (order, e)) _ hdispatch rfl rfl (ih _ _)
        | failed reason => exact .failed (c := (order, e)) _ _ hdispatch rfl
        | hung => exact .lost (c := (order, e)) _ hdispatch rfl (Or.inl rfl)
        | panicked => exact .lost (c := (order, e)) _ hdispatch rfl (Or.inr rfl)

/-- How the outcome of a request goes together with the reply of the router. -/
structure Agrees (candidates : List (Int × Inbound τ)) (fates : List (Fate τ)) (reply : Reply τ) :
    Prop where
  /-- There is no outcome if and only if the router does not come back. -/
  lost : outcome? fates = none ↔ reply.ending = .hung ∨ reply.ending = .panicked
  /-- The outcome is an error if and only if the router fails. -/
  failed : outcome? fates = some .error ↔ ∃ reason, reply.ending = .failed reason
  /-- A request that is matched has been handled. -/
  matched : outcome? fates = some .matched → reply.context.isHandled
  /-- No candidate is left for a request that is not matched. -/
  exhausted : outcome? fates = some .notFound → fates.length = candidates.length

/-- The outcome of a request agrees with the reply. -/
theorem Run.agrees {respond : τ → RouteContext τ → Reply τ} {tried : Nat}
    {context : RouteContext τ} {candidates : List (Int × Inbound τ)} {fates : List (Fate τ)}
    {reply : Reply τ} (h : Run respond tried context candidates fates reply) :
    Agrees candidates fates reply := by
  induction h with
  | exhausted event =>
    exact ⟨by simp [outcome?], by simp [outcome?], by simp [outcome?], fun _ => rfl⟩
  | unfit _ ih =>
    exact ⟨ih.lost, ih.failed, ih.matched, fun h => congrArg (· + 1) (ih.exhausted h)⟩
  | rejected _ _ _ ih =>
    exact ⟨ih.lost, ih.failed, ih.matched, fun h => congrArg (· + 1) (ih.exhausted h)⟩
  | declined _ _ _ _ _ ih =>
    exact ⟨ih.lost, ih.failed, ih.matched, fun h => congrArg (· + 1) (ih.exhausted h)⟩
  | handled _ _ _ done isHandled =>
    exact ⟨by simp [outcome?, done], by simp [outcome?, done], fun _ => isHandled,
      by simp [outcome?]⟩
  | failed _ _ _ fails =>
    exact ⟨by simp [outcome?, fails], by simp [outcome?, fails], by simp [outcome?],
      by simp [outcome?]⟩
  | lost _ _ ends isLost =>
    rcases isLost with rfl | rfl
    · exact ⟨by simp [outcome?, ends], by simp [outcome?, ends], by simp [outcome?],
        by simp [outcome?]⟩
    · exact ⟨by simp [outcome?, ends], by simp [outcome?, ends], by simp [outcome?],
        by simp [outcome?]⟩

/-- The outcome of a request agrees with what the router replies. -/
theorem agrees_route (r : Router τ ν) (respond : τ → RouteContext τ → Reply τ)
    (context : RouteContext τ) :
    Agrees (r.candidates (.ofString context.request.path)) (r.fates respond context)
      (r.route respond context) :=
  (run_fatesOf respond _ 0 context _).agrees

/-- The targets that are called are those among the fates. -/
theorem Run.calls {respond : τ → RouteContext τ → Reply τ} {tried : Nat}
    {context : RouteContext τ} {candidates : List (Int × Inbound τ)} {fates : List (Fate τ)}
    {reply : Reply τ} (h : Run (muted respond) tried context candidates fates reply) :
    callsIn reply.trace = fates.filterMap Fate.call? := by
  induction h with
  | exhausted event => rfl
  | unfit _ ih => exact ih
  | rejected _ _ _ ih => exact ih
  | declined data called _ _ _ ih =>
    subst called
    exact congrArg (_ :: ·) ih
  | handled data _ called => subst called; rfl
  | failed data _ called => subst called; rfl
  | lost data called => subst called; rfl

/-- The fates do not depend on what happens inside of the targets. -/
theorem fatesOf_muted (respond : τ → RouteContext τ → Reply τ) (path : UrlPath)
    (context : RouteContext τ) (candidates : List (Int × Inbound τ)) :
    fatesOf (muted respond) path context candidates = fatesOf respond path context candidates := by
  induction candidates generalizing context with
  | nil => rfl
  | cons c rest ih =>
    obtain ⟨order, e⟩ := c
    simp only [fatesOf, ih]
    rfl

/-- The targets that a router itself calls are those among the fates. -/
theorem calls_route (r : Router τ ν) (respond : τ → RouteContext τ → Reply τ)
    (context : RouteContext τ) :
    callsIn (r.route (muted respond) context).trace =
      (r.fates respond context).filterMap Fate.call? := by
  rw [fates, ← fatesOf_muted]
  exact (run_fatesOf (muted respond) _ 0 context _).calls

end Router

/-! ### Fates of entries for links -/

/-- What becomes of an entry for links. -/
inductive LinkFate where
  /-- No values are selected for its template. -/
  | unselected
  /-- A constraint of this name is not content. -/
  | rejected (constraint : String)
  /-- The receiver answers to a question, and there is a link or none. -/
  | asked (question : LinkRequest) (link? : Option Link)
  /-- The receiver breaks down over a question. -/
  | lost (question : LinkRequest)

namespace LinkFate

/-- Whether other entries are tried. -/
def goesOn : LinkFate → Bool
  | asked _ (some _) => false
  | lost _ => false
  | _ => true

/-- The question that the receiver is asked. -/
def question? : LinkFate → Option LinkRequest
  | asked question _ => some question
  | lost question => some question
  | _ => none

end LinkFate

/-- The answer to a request for a link by the fates of the entries. There is none where a receiver
breaks down. -/
def linkOutcome? : List LinkFate → Option (Option Link)
  | [] => some none
  | .asked _ (some link) :: _ => some (some link)
  | .lost _ :: _ => none
  | _ :: fates => linkOutcome? fates

/-- The answer of a router that comes back. -/
def LinkReply.answer? (reply : LinkReply τ) : Option (Option Link) :=
  match reply.ending with
  | .answered => some reply.link?
  | .panicked => none

/-- The answers of receivers, with the question in place of what happened inside of them. -/
def questioned (receive : ν → LinkRequest → LinkReply τ) (receiver : ν) (question : LinkRequest) :
    LinkReply τ :=
  { receive receiver question with trace := [.asked question] }

/-- The questions among some occurrences. -/
def questionsIn (trace : List (Occurrence τ)) : List LinkRequest :=
  trace.filterMap Occurrence.question?

theorem questionsIn_append (trace trace' : List (Occurrence τ)) :
    questionsIn (trace ++ trace') = questionsIn trace ++ questionsIn trace' :=
  List.filterMap_append

namespace Router

/-- What becomes of an entry for links. -/
def linkFate (receive : ν → LinkRequest → LinkReply τ) (r : Router τ ν) (q : LinkRequest)
    (e : Outbound) : LinkFate :=
  match e.pattern.select? q.ambient (e.inputOf q.values) with
  | none => .unselected
  | some selection =>
    match e.constraints.denied? ⟨q.request, selection.combined, .generation⟩ with
    | some (_, c) => .rejected c.name
    | none =>
      let question := { q with provided? := some (e.provide selection.accepted) }
      let reply := receive r.next question
      match reply.ending with
      | .panicked => .lost question
      | .answered =>
        match reply.link? with
        | some link => .asked question (some link)
        | none =>
          .asked question <|
            if reply.isBound then
              (e.pattern.write? selection.accepted).map fun url =>
                { url, template? := some e.templateText }
            else none

/-- What becomes of entries for links that are tried in order. -/
def linkFatesOf (receive : ν → LinkRequest → LinkReply τ) (r : Router τ ν) (q : LinkRequest) :
    List Outbound → List LinkFate
  | [] => []
  | e :: rest =>
    let fate := r.linkFate receive q e
    fate :: if fate.goesOn then r.linkFatesOf receive q rest else []

/-- What becomes of the entries to which a request for a link leads. -/
def linkFates (r : Router τ ν) (receive : ν → LinkRequest → LinkReply τ) (q : LinkRequest) :
    List LinkFate :=
  r.linkFatesOf receive q (r.entriesFor q)

/-- What comes of an entry for links: its fate, and the attempt. -/
inductive LinkStep (receive : ν → LinkRequest → LinkReply τ) (r : Router τ ν) :
    LinkFate → LinkAttempt τ → Prop where
  /-- No values are selected. -/
  | unselected : LinkStep receive r .unselected ⟨none, .answered, []⟩
  /-- A constraint is not content. -/
  | rejected (rejection : Rejection) (generation : rejection.direction = .generation) :
      LinkStep receive r (.rejected rejection.constraint)
        ⟨none, .answered, Occurrence.ofRejection rejection⟩
  /-- The receiver answers. -/
  | asked (question : LinkRequest) (link? : Option Link) :
      LinkStep receive r (.asked question link?)
        ⟨link?, .answered, (receive r.next question).trace⟩
  /-- The receiver breaks down. -/
  | lost (question : LinkRequest) :
      LinkStep receive r (.lost question) ⟨none, .panicked, (receive r.next question).trace⟩

/-- A router tries an entry in such a step. -/
theorem linkStep_linkFate (receive : ν → LinkRequest → LinkReply τ) (r : Router τ ν)
    (q : LinkRequest) (e : Outbound) :
    LinkStep receive r (r.linkFate receive q e) (r.writeLink receive q e) := by
  rw [linkFate, writeLink]
  cases e.pattern.select? q.ambient (e.inputOf q.values) with
  | none => exact .unselected
  | some selection =>
    dsimp only
    cases hdenied : e.constraints.denied? ⟨q.request, selection.combined, .generation⟩ with
    | some denied =>
      obtain ⟨rejection, hrejection, -, hname, -, hgeneration⟩ := firstRejection?_of_denied? hdenied
      rw [hrejection]
      dsimp only
      rw [← hname]
      exact .rejected rejection hgeneration
    | none =>
      rw [firstRejection?_of_denied?_eq_none hdenied]
      dsimp only
      obtain ⟨question, hquestion⟩ : ∃ question,
          { q with provided? := some (e.provide selection.accepted) } = question := ⟨_, rfl⟩
      rw [hquestion]
      cases (receive r.next question).ending with
      | panicked => exact .lost question
      | answered =>
        cases (receive r.next question).link? with
        | some link => exact .asked question (some link)
        | none => exact .asked question _

theorem LinkStep.goesOn_eq {receive : ν → LinkRequest → LinkReply τ} {r : Router τ ν}
    {fate : LinkFate} {attempt : LinkAttempt τ} (h : LinkStep receive r fate attempt) :
    fate.goesOn = attempt.goesOn := by
  cases h with
  | unselected => rfl
  | rejected => rfl
  | asked question link? => cases link? <;> rfl
  | lost => rfl

/-- What comes of entries for links that are tried in order: their fates, and the attempt. -/
inductive LinkRun (receive : ν → LinkRequest → LinkReply τ) (r : Router τ ν) :
    List LinkFate → LinkAttempt τ → Prop where
  /-- No entry is left. -/
  | exhausted : LinkRun receive r [] ⟨none, .answered, []⟩
  /-- There is no link, and other entries are tried. -/
  | passed {fate : LinkFate} {fates : List LinkFate} {attempt later : LinkAttempt τ}
      (step : LinkStep receive r fate attempt) (isOpen : fate.goesOn)
      (goesOn : LinkRun receive r fates later) :
      LinkRun receive r (fate :: fates) (later.after attempt.trace)
  /-- There is a link, or the receiver breaks down. -/
  | ended {fate : LinkFate} {attempt : LinkAttempt τ} (step : LinkStep receive r fate attempt)
      (ends : fate.goesOn = false) : LinkRun receive r [fate] attempt

/-- A router tries its entries for links in such steps. -/
theorem linkRun_linkFatesOf (receive : ν → LinkRequest → LinkReply τ) (r : Router τ ν)
    (q : LinkRequest) (es : List Outbound) :
    LinkRun receive r (r.linkFatesOf receive q es) (r.firstLink receive q es) := by
  induction es with
  | nil => exact .exhausted
  | cons e rest ih =>
    have step := r.linkStep_linkFate receive q e
    rw [linkFatesOf, firstLink, ← step.goesOn_eq]
    cases hgoes : (r.linkFate receive q e).goesOn with
    | true => exact .passed step hgoes ih
    | false => exact .ended step hgoes

/-- The outcome of the fates is the answer, if the router comes back. -/
theorem LinkRun.outcome_eq {receive : ν → LinkRequest → LinkReply τ} {r : Router τ ν}
    {fates : List LinkFate} {attempt : LinkAttempt τ} (h : LinkRun receive r fates attempt) :
    linkOutcome? fates = if attempt.ending = .answered then some attempt.link? else none := by
  induction h with
  | exhausted => rfl
  | passed step isOpen _ ih =>
    cases step with
    | unselected => exact ih
    | rejected => exact ih
    | asked question link? =>
      cases link? with
      | none => exact ih
      | some link => cases isOpen
    | lost => cases isOpen
  | ended step ends =>
    cases step with
    | unselected => cases ends
    | rejected => cases ends
    | asked question link? =>
      cases link? with
      | none => cases ends
      | some link => rfl
    | lost => rfl

/-- The outcome of the fates is the answer to the request for a link. -/
theorem answer?_link (r : Router τ ν) (receive : ν → LinkRequest → LinkReply τ) (q : LinkRequest) :
    (r.link receive q).answer? = linkOutcome? (r.linkFates receive q) := by
  rw [linkFates, (r.linkRun_linkFatesOf receive q (r.entriesFor q)).outcome_eq, link]
  split
  next hpanicked => rw [hpanicked]; rfl
  next hanswered => rw [hanswered]; rfl

/-- The questions that a router itself asks are those among the fates. -/
theorem LinkRun.questions {receive : ν → LinkRequest → LinkReply τ} {r : Router τ ν}
    {fates : List LinkFate} {attempt : LinkAttempt τ}
    (h : LinkRun (questioned receive) r fates attempt) :
    questionsIn attempt.trace = fates.filterMap LinkFate.question? := by
  have hstep {fate : LinkFate} {attempt : LinkAttempt τ}
      (step : LinkStep (questioned receive) r fate attempt) :
      questionsIn attempt.trace = fate.question?.toList := by
    cases step <;> rfl
  induction h with
  | exhausted => rfl
  | @passed fate fates attempt later step _ _ ih =>
    rw [LinkAttempt.after, questionsIn_append, hstep step, ih, List.filterMap_cons]
    cases fate.question? <;> rfl
  | @ended fate attempt step _ =>
    rw [hstep step, List.filterMap_cons]
    cases fate.question? <;> rfl

/-- The fates do not depend on what happens inside of the receivers. -/
theorem linkFatesOf_questioned (r : Router τ ν) (receive : ν → LinkRequest → LinkReply τ)
    (q : LinkRequest) (es : List Outbound) :
    r.linkFatesOf (questioned receive) q es = r.linkFatesOf receive q es := by
  induction es with
  | nil => rfl
  | cons e rest ih =>
    simp only [linkFatesOf, ih]
    rfl

/-- The questions that a router asks when a link is asked for are those among the fates. -/
theorem questions_link (r : Router τ ν) (receive : ν → LinkRequest → LinkReply τ)
    (q : LinkRequest) :
    questionsIn (r.link (questioned receive) q).trace =
      (r.linkFates receive q).filterMap LinkFate.question? := by
  have hrun := (r.linkRun_linkFatesOf (questioned receive) q (r.entriesFor q)).questions
  rw [linkFates, ← linkFatesOf_questioned, ← hrun, link]
  split
  · rfl
  · rw [questionsIn_append]
    exact List.append_nil _

end Router

/-! ### Histories -/

/-- Something that happens where routers are used. -/
inductive Happening (τ : Type) where
  /-- A router has come to the end of a request, or has not come back. -/
  | routed (fates : List (Fate τ))
  /-- A constraint of this name is not content with a value of a route that is used this way. -/
  | rejected (constraint : String) (direction : Direction)
  /-- A router has been asked for a link, and has answered or has not come back. -/
  | linked (named : Bool) (fates : List LinkFate)
  /-- A router has been built from so many entries for requests. -/
  | built (entries : Nat)

/-- All that happens, in order. -/
abbrev History (τ : Type) := List (Happening τ)

/-- What is measured when something happens. -/
def Happening.measurement? : Happening τ → Option Measurement
  | routed fates => (outcome? fates).map fun outcome => .routed outcome.label (tried fates)
  | rejected constraint direction => some (.rejected constraint direction.label)
  | linked named fates => (linkOutcome? fates).map fun link? => .linked named link?.isSome
  | built entries => some (.built entries)

/-- What is measured of all that happens. -/
def History.measurements (history : History τ) : List Measurement :=
  history.filterMap Happening.measurement?

theorem History.measurements_append (history history' : History τ) :
    History.measurements (history ++ history') =
      History.measurements history ++ History.measurements history' :=
  List.filterMap_append

theorem History.measurements_singleton (happening : Happening τ) :
    History.measurements [happening] = happening.measurement?.toList := by
  rw [History.measurements, List.filterMap_cons]
  cases happening.measurement? with
  | some m => rfl
  | none => rfl

/-- The measurements among some occurrences. -/
def measurementsIn (trace : List (Occurrence τ)) : List Measurement :=
  trace.filterMap Occurrence.measurement?

theorem measurementsIn_append (trace trace' : List (Occurrence τ)) :
    measurementsIn (trace ++ trace') = measurementsIn trace ++ measurementsIn trace' :=
  List.filterMap_append

theorem measurementsIn_after (trace : List (Occurrence τ)) (reply : Reply τ) :
    measurementsIn (reply.after trace).trace = measurementsIn trace ++ measurementsIn reply.trace :=
  measurementsIn_append trace reply.trace

/-- How targets and receivers are called, and what happens inside of them. -/
structure Calling (τ ν : Type) where
  /-- Calls a target. -/
  respond : τ → RouteContext τ → Reply τ
  /-- Asks a receiver. -/
  receive : ν → LinkRequest → LinkReply τ
  /-- What happens inside of a target. -/
  inTarget : τ → RouteContext τ → History τ
  /-- What happens inside of a receiver. -/
  inReceiver : ν → LinkRequest → History τ
  /-- Inside of a target just this is measured. -/
  target_measured : ∀ target context,
    measurementsIn (respond target context).trace = (inTarget target context).measurements
  /-- Inside of a receiver just this is measured. -/
  receiver_measured : ∀ receiver q,
    measurementsIn (receive receiver q).trace = (inReceiver receiver q).measurements

/-- What happens in the course of a fate. -/
def Fate.history (c : Calling τ ν) : Fate τ → History τ
  | unfit => []
  | rejected constraint => [.rejected constraint .incoming]
  | called target seen _ _ => c.inTarget target seen

/-- What happens in the course of the fate of an entry for links. -/
def LinkFate.history (c : Calling τ ν) (receiver : ν) : LinkFate → History τ
  | unselected => []
  | rejected constraint => [.rejected constraint .generation]
  | asked question _ => c.inReceiver receiver question
  | lost question => c.inReceiver receiver question

namespace Router

variable (c : Calling τ ν) (r : Router τ ν)

/-- What happens when a request is routed. -/
def routeHistory (context : RouteContext τ) : History τ :=
  (r.fates c.respond context).flatMap (Fate.history c) ++ [.routed (r.fates c.respond context)]

variable {c} in
theorem measurements_dispatch {context : RouteContext τ} {target : τ} {data : RouteData τ}
    {reply : Reply τ} (called : dispatch c.respond context target data = reply) :
    measurementsIn reply.trace = (c.inTarget target { context with data }).measurements := by
  subst called
  exact c.target_measured target { context with data }

variable {c} in
/-- Step by step, what is measured is what happens, and at last the outcome. -/
theorem Run.measurements {tried : Nat} {context : RouteContext τ}
    {candidates : List (Int × Inbound τ)} {fates : List (Fate τ)} {reply : Reply τ}
    (h : Run c.respond tried context candidates fates reply) :
    measurementsIn reply.trace = History.measurements (fates.flatMap (Fate.history c)) ++
      ((outcome? fates).map fun outcome =>
        Measurement.routed outcome.label (tried + fates.length)).toList := by
  induction h with
  | exhausted event => rfl
  | unfit _ ih =>
    rw [List.flatMap_cons, List.length_cons, ← Nat.add_assoc, Nat.add_right_comm]
    exact ih
  | rejected rejection incoming _ ih =>
    rw [measurementsIn_after, ih, List.flatMap_cons, History.measurements_append,
      List.length_cons, ← Nat.add_assoc, Nat.add_right_comm, List.append_assoc, Fate.history,
      ← incoming]
    rfl
  | declined data called _ _ _ ih =>
    rw [measurementsIn_after, ih, measurements_dispatch called, List.flatMap_cons,
      History.measurements_append, List.length_cons, ← Nat.add_assoc, Nat.add_right_comm,
      List.append_assoc]
    rfl
  | handled data event called =>
    rw [measurementsIn_append, measurements_dispatch called, List.flatMap_singleton]
    rfl
  | failed data event called =>
    rw [measurementsIn_append, measurements_dispatch called, List.flatMap_singleton]
    rfl
  | lost data called _ isLost =>
    rw [measurements_dispatch called, List.flatMap_singleton]
    rcases isLost with rfl | rfl
    · exact (List.append_nil _).symm
    · exact (List.append_nil _).symm

/-- Routing a request, what is measured is what happens. -/
theorem measurements_route (context : RouteContext τ) :
    measurementsIn (r.route c.respond context).trace = (r.routeHistory c context).measurements := by
  have hrun := (run_fatesOf c.respond (.ofString context.request.path) 0 context
    (r.candidates (.ofString context.request.path))).measurements
  rw [Nat.zero_add, ← tried_eq_length] at hrun
  rw [routeHistory, History.measurements_append, History.measurements_singleton]
  exact hrun

/-- What happens when a link is asked for. -/
def linkHistory (q : LinkRequest) : History τ :=
  (r.linkFates c.receive q).flatMap (LinkFate.history c r.next) ++
    [.linked q.name?.isSome (r.linkFates c.receive q)]

variable {c r} in
theorem LinkStep.measurements {fate : LinkFate} {attempt : LinkAttempt τ}
    (h : LinkStep c.receive r fate attempt) :
    measurementsIn attempt.trace = (fate.history c r.next).measurements := by
  cases h with
  | unselected => rfl
  | rejected rejection generation => rw [LinkFate.history, ← generation]; rfl
  | asked question => exact c.receiver_measured r.next question
  | lost question => exact c.receiver_measured r.next question

variable {c r} in
/-- Entry by entry, what is measured is what happens. -/
theorem LinkRun.measurements {fates : List LinkFate} {attempt : LinkAttempt τ}
    (h : LinkRun c.receive r fates attempt) :
    measurementsIn attempt.trace =
      History.measurements (fates.flatMap (LinkFate.history c r.next)) := by
  induction h with
  | exhausted => rfl
  | passed step _ _ ih =>
    rw [List.flatMap_cons, History.measurements_append, ← step.measurements, ← ih]
    exact measurementsIn_append _ _
  | ended step _ => rw [List.flatMap_singleton, step.measurements]

/-- Asking for a link, what is measured is what happens. -/
theorem measurements_link (q : LinkRequest) :
    measurementsIn (r.link c.receive q).trace = (r.linkHistory c q).measurements := by
  have hrun : LinkRun c.receive r (r.linkFates c.receive q)
      (r.firstLink c.receive q (r.entriesFor q)) := r.linkRun_linkFatesOf ..
  rw [linkHistory, History.measurements_append, ← hrun.measurements,
    History.measurements_singleton, Happening.measurement?, hrun.outcome_eq, link]
  split
  next hpanicked =>
    rw [hpanicked]
    exact (List.append_nil _).symm
  next hanswered =>
    rw [hanswered]
    exact measurementsIn_append _ _

end Router

namespace Draft

variable (d : Draft τ ν) (version : Int)

/-- What is counted and told when a router is built, if it can be. -/
def buildTrace : List (Occurrence τ) :=
  match d.build version with
  | .ok _ => d.builtTrace version
  | .error _ => []

/-- What happens when a router is built, if it can be. -/
def buildHistory : History τ :=
  match d.build version with
  | .ok _ => [.built d.inbound.length]
  | .error _ => []

/-- Building a router, what is measured is what happens. -/
theorem measurements_buildTrace :
    measurementsIn (d.buildTrace version) = (d.buildHistory version).measurements := by
  unfold buildTrace buildHistory
  split
  · rfl
  · rfl

end Draft

end UrlRouting

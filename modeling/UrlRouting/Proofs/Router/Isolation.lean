import UrlRouting.Proofs.Trie.Matching
import UrlRouting.Router.Routing

/-!
# Attempts of a router are isolated

A router tries its candidates one after another, and a target may do with the request what it
likes. `Attempts` relates a request and the candidates that are left to the reply of the router,
with one rule for each thing that can become of a candidate. What a target is to be called with
(`Inbound.entered`) and which constraint is not content (`ConstraintMap.denied?`) is said apart from
what the router computes, and the router agrees (`Inbound.enter_eq_entered`,
`firstRejection?_of_denied?`). By induction over the rules, each target is called with the initial
data and what its own entry adds to them, and the initial data are back whenever the request ends up
unhandled (`Router.route_isolated`).
-/

namespace UrlRouting

/-! ### Calls and replies -/

/-- The target and the data of an occurrence that is a call. -/
def Occurrence.call? {τ : Type} : Occurrence τ → Option (τ × RouteData τ)
  | called target data => some (target, data)
  | _ => none

/-- The calls among some occurrences. -/
def callsIn {τ : Type} (trace : List (Occurrence τ)) : List (τ × RouteData τ) :=
  trace.filterMap Occurrence.call?

/-- Whether a call has come back without handling the request. -/
def Reply.declines {τ : Type} (reply : Reply τ) : Bool :=
  decide (reply.ending = .done) && !reply.context.isHandled

/-- The replies of targets without what happened inside of the targets. -/
def muted {τ : Type} (respond : τ → RouteContext τ → Reply τ) (target : τ)
    (context : RouteContext τ) : Reply τ :=
  { respond target context with trace := [] }

variable {τ ν : Type}

theorem callsIn_append (trace trace' : List (Occurrence τ)) :
    callsIn (trace ++ trace') = callsIn trace ++ callsIn trace' :=
  List.filterMap_append

theorem callsIn_ofRejection (rejection : Rejection) :
    callsIn (Occurrence.ofRejection rejection : List (Occurrence τ)) = [] :=
  rfl

theorem callsIn_routedTrace (event : Event) (outcome : String) (tried : Nat) :
    callsIn (Router.routedTrace event outcome tried : List (Occurrence τ)) = [] :=
  rfl

theorem callsIn_after (trace : List (Occurrence τ)) (reply : Reply τ) :
    callsIn (reply.after trace).trace = callsIn trace ++ callsIn reply.trace :=
  callsIn_append trace reply.trace

/-! ### What an entry adds -/

namespace Inbound

/-- The data with which the target of an entry is to be called: the values so far merged with those
that its pattern reads off the path, and the targets so far followed by the target itself. -/
def entered (e : Inbound τ) (path : UrlPath) (data : RouteData τ) : RouteData τ where
  values := data.values.merge ((e.pattern.fit? path).getD .empty)
  targets := data.targets ++ [e.target]

/-- Whether the path fits the pattern of an entry and all of its constraints are content with
the values. -/
def accepts (e : Inbound τ) (path : UrlPath) (context : RouteContext τ) : Bool :=
  (e.pattern.fit? path).isSome && e.constraints.items.all fun (key, c) =>
    c.admits ⟨context.request, (e.entered path context.data).values, .incoming⟩ key

/-- The router calls the target of an entry with the data with which it is to be called. -/
theorem enter_eq_entered {e : Inbound τ} {path : UrlPath} {values : Bindings}
    (h : e.pattern.fit? path = some values) (data : RouteData τ) :
    Router.enter data e.target values = e.entered path data := by
  rw [Router.enter, entered, h, Option.getD_some]

end Inbound

/-! ### What constraints deny -/

section

variable {constraints : ConstraintMap} {site : Constraint.Site}

/-- The first constraint, in the order of the names, that is not content, with the name under which
it is. -/
def ConstraintMap.denied? (constraints : ConstraintMap) (site : Constraint.Site) :
    Option (String × Constraint) :=
  constraints.items.find? fun (key, c) => !c.admits site key

theorem firstRejection?_eq_none :
    firstRejection? constraints site = none ↔
      constraints.items.all fun (key, c) => c.admits site key := by
  simp [firstRejection?]

/-- What is rejected is the value of the first constraint that is not content; the rejection bears
the name of this constraint and says which way the router is used. -/
theorem firstRejection?_of_denied? {key : String} {c : Constraint}
    (h : constraints.denied? site = some (key, c)) :
    ∃ rejection, firstRejection? constraints site = some rejection ∧ rejection.key = key ∧
      rejection.constraint = c.name ∧ rejection.value = (site.values.get? key).getD "" ∧
      rejection.direction = site.direction := by
  rw [ConstraintMap.denied?] at h
  rw [firstRejection?, h]
  exact ⟨_, rfl, rfl, rfl, rfl, rfl⟩

theorem firstRejection?_of_denied?_eq_none (h : constraints.denied? site = none) :
    firstRejection? constraints site = none := by
  rw [ConstraintMap.denied?] at h
  rw [firstRejection?, h]
  rfl

end

/-! ### One candidate -/

namespace Router

/-- Calls the target of an entry. -/
def attempt (respond : τ → RouteContext τ → Reply τ) (path : UrlPath) (context : RouteContext τ)
    (e : Inbound τ) : Reply τ :=
  dispatch respond context e.target (e.entered path context.data)

variable {respond respond' : τ → RouteContext τ → Reply τ} {path : UrlPath} {tried : Nat}
  {context : RouteContext τ} {e : Inbound τ}

theorem isHandled_dispatch (target : τ) (data : RouteData τ) :
    (dispatch respond context target data).context.isHandled =
      (respond target { context with data }).context.isHandled := by
  unfold dispatch
  dsimp only
  split <;> rfl

/-- A target that leaves the request unhandled leaves the data as they were. -/
theorem data_dispatch {target : τ} {data : RouteData τ}
    (h : (dispatch respond context target data).context.isHandled = false) :
    (dispatch respond context target data).context.data = context.data := by
  rw [isHandled_dispatch] at h
  simp [dispatch, h]

theorem data_attempt (h : (attempt respond path context e).declines) :
    (attempt respond path context e).context.data = context.data := by
  simp only [Reply.declines, Bool.and_eq_true, Bool.not_eq_true'] at h
  exact data_dispatch h.2

theorem declines_attempt :
    (attempt respond path context e).declines =
      (respond e.target { context with data := e.entered path context.data }).declines := by
  rw [Reply.declines, attempt, isHandled_dispatch]
  rfl

theorem callsIn_attempt_muted :
    callsIn (attempt (muted respond) path context e).trace =
      [(e.target, e.entered path context.data)] :=
  rfl

/-! ### All candidates -/

/-- What a router makes of a request and the candidates that are left, apart from what it tells
and counts about its own work. -/
inductive Attempts (respond : τ → RouteContext τ → Reply τ) (path : UrlPath) :
    RouteContext τ → List (Int × Inbound τ) → Reply τ → Prop where
  /-- No candidate is left. -/
  | exhausted {context : RouteContext τ} {told : List (Occurrence τ)} (quiet : callsIn told = []) :
      Attempts respond path context [] ⟨context, .done, told⟩
  /-- The candidate does not accept the request. -/
  | passed {context : RouteContext τ} {order : Int} {e : Inbound τ}
      {rest : List (Int × Inbound τ)} {told : List (Occurrence τ)} {later : Reply τ}
      (rejects : e.accepts path context = false) (quiet : callsIn told = [])
      (goesOn : Attempts respond path context rest later) :
      Attempts respond path context ((order, e) :: rest) (later.after told)
  /-- The target of the candidate declines. -/
  | declined {context : RouteContext τ} {order : Int} {e : Inbound τ}
      {rest : List (Int × Inbound τ)} {later : Reply τ}
      (accepts : e.accepts path context) (declines : (attempt respond path context e).declines)
      (goesOn : Attempts respond path (attempt respond path context e).context rest later) :
      Attempts respond path context ((order, e) :: rest)
        (later.after (attempt respond path context e).trace)
  /-- The target of the candidate handles the request, fails, hangs or panics. -/
  | ended {context : RouteContext τ} {order : Int} {e : Inbound τ}
      {rest : List (Int × Inbound τ)} {told : List (Occurrence τ)}
      (accepts : e.accepts path context) (ends : (attempt respond path context e).declines = false)
      (quiet : callsIn told = []) :
      Attempts respond path context ((order, e) :: rest)
        { attempt respond path context e with
          trace := (attempt respond path context e).trace ++ told }

/-- A candidate that does not accept the request is passed over. -/
theorem tryCandidates_of_rejects (respond : τ → RouteContext τ → Reply τ) (tried : Nat)
    (order : Int) (rest : List (Int × Inbound τ)) (h : e.accepts path context = false) :
    ∃ told : List (Occurrence τ), callsIn told = [] ∧
      tryCandidates respond path tried context ((order, e) :: rest) =
        (tryCandidates respond path (tried + 1) context rest).after told := by
  rw [tryCandidates]
  split
  next => exact ⟨[], rfl, rfl⟩
  next values hfit =>
    dsimp only
    split
    next rejection _ => exact ⟨_, callsIn_ofRejection rejection, rfl⟩
    next hnone =>
      rw [firstRejection?_eq_none, e.enter_eq_entered hfit] at hnone
      simp [Inbound.accepts, hfit, hnone] at h

/-- The target of a candidate that accepts the request is called. If it declines, the router
goes on with the other candidates, and otherwise the router is done. -/
theorem tryCandidates_of_accepts (respond : τ → RouteContext τ → Reply τ) (tried : Nat)
    (order : Int) (rest : List (Int × Inbound τ)) (h : e.accepts path context) {reply : Reply τ}
    (hreply : attempt respond path context e = reply) :
    (reply.declines → tryCandidates respond path tried context ((order, e) :: rest) =
      (tryCandidates respond path (tried + 1) reply.context rest).after reply.trace) ∧
    (reply.declines = false → ∃ told : List (Occurrence τ), callsIn told = [] ∧
      tryCandidates respond path tried context ((order, e) :: rest) =
        { reply with trace := reply.trace ++ told }) := by
  simp only [Inbound.accepts, Bool.and_eq_true] at h
  obtain ⟨values, hfit⟩ := Option.isSome_iff_exists.1 h.1
  have hnone := firstRejection?_eq_none.2 h.2
  rw [attempt] at hreply
  simp only [tryCandidates, hfit, e.enter_eq_entered hfit, hnone, hreply]
  constructor
  · intro hd
    simp only [Reply.declines, Bool.and_eq_true, decide_eq_true_eq, Bool.not_eq_true'] at hd
    simp [hd.1, hd.2]
  · intro hd
    split
    next hdone =>
      have hhandled : reply.context.isHandled := by simpa [Reply.declines, hdone] using hd
      rw [if_pos hhandled]
      exact ⟨_, callsIn_routedTrace .., rfl⟩
    next => exact ⟨_, callsIn_routedTrace .., rfl⟩
    next => exact ⟨[], rfl, by rw [List.append_nil]⟩
    next => exact ⟨[], rfl, by rw [List.append_nil]⟩

/-- The rules describe every run over candidates. -/
theorem attempts_tryCandidates (candidates : List (Int × Inbound τ)) :
    Attempts respond path context candidates
      (tryCandidates respond path tried context candidates) := by
  induction candidates generalizing tried context with
  | nil => exact .exhausted (callsIn_routedTrace ..)
  | cons c rest ih =>
    obtain ⟨order, e⟩ := c
    cases ha : e.accepts path context with
    | false =>
      obtain ⟨told, quiet, heq⟩ := tryCandidates_of_rejects respond tried order rest ha
      rw [heq]
      exact .passed ha quiet ih
    | true =>
      obtain ⟨goesOn, ends⟩ := tryCandidates_of_accepts respond tried order rest ha rfl
      cases hd : (attempt respond path context e).declines with
      | true =>
        rw [goesOn hd]
        exact .declined ha hd ih
      | false =>
        obtain ⟨told, quiet, heq⟩ := ends hd
        rw [heq]
        exact .ended ha hd quiet

/-- Whatever the targets before it have done, each target is called with the initial data and
what its entry adds. -/
theorem Attempts.mem_calls {candidates : List (Int × Inbound τ)} {reply : Reply τ}
    (h : Attempts (muted respond) path context candidates reply) {call : τ × RouteData τ}
    (hcall : call ∈ callsIn reply.trace) :
    ∃ c ∈ candidates, (c.2.pattern.fit? path).isSome ∧
      call = (c.2.target, c.2.entered path context.data) := by
  induction h with
  | exhausted quiet =>
    rw [quiet] at hcall
    cases hcall
  | passed rejects quiet goesOn ih =>
    rw [callsIn_after, quiet] at hcall
    obtain ⟨c, hc, hfit, heq⟩ := ih hcall
    exact ⟨c, List.mem_cons_of_mem _ hc, hfit, heq⟩
  | declined accepts declines goesOn ih =>
    rw [callsIn_after, callsIn_attempt_muted] at hcall
    rcases List.mem_cons.1 hcall with rfl | hcall
    · simp only [Inbound.accepts, Bool.and_eq_true] at accepts
      exact ⟨_, List.mem_cons_self, accepts.1, rfl⟩
    · -- the data that the target has left are the initial ones again
      rw [data_attempt declines] at ih
      obtain ⟨c, hc, hfit, heq⟩ := ih hcall
      exact ⟨c, List.mem_cons_of_mem _ hc, hfit, heq⟩
  | ended accepts ends quiet =>
    rw [callsIn_append, callsIn_attempt_muted, quiet, List.append_nil] at hcall
    simp only [Inbound.accepts, Bool.and_eq_true] at accepts
    exact ⟨_, List.mem_cons_self, accepts.1, List.mem_singleton.1 hcall⟩

/-- If the request ends up unhandled, the initial data are back. -/
theorem Attempts.data_eq {candidates : List (Int × Inbound τ)} {reply : Reply τ}
    (h : Attempts respond path context candidates reply)
    (hopen : reply.context.isHandled = false) : reply.context.data = context.data := by
  induction h with
  | exhausted quiet => rfl
  | passed rejects quiet goesOn ih => exact ih hopen
  | declined accepts declines goesOn ih =>
    exact (ih hopen).trans (data_attempt declines)
  | ended accepts ends quiet => exact data_dispatch hopen

/-- What happens inside of the targets does not change the course of a run. -/
theorem tryCandidates_muted (candidates : List (Int × Inbound τ)) :
    (tryCandidates (muted respond) path tried context candidates).context =
        (tryCandidates respond path tried context candidates).context ∧
      (tryCandidates (muted respond) path tried context candidates).ending =
        (tryCandidates respond path tried context candidates).ending := by
  induction candidates generalizing tried context with
  | nil => exact ⟨rfl, rfl⟩
  | cons c rest ih =>
    obtain ⟨order, e⟩ := c
    cases ha : e.accepts path context with
    | false =>
      obtain ⟨told, -, heq⟩ := tryCandidates_of_rejects respond tried order rest ha
      obtain ⟨told', -, heq'⟩ := tryCandidates_of_rejects (muted respond) tried order rest ha
      rw [heq, heq']
      exact ih
    | true =>
      obtain ⟨goesOn, ends⟩ := tryCandidates_of_accepts respond tried order rest ha rfl
      obtain ⟨goesOn', ends'⟩ := tryCandidates_of_accepts (muted respond) tried order rest ha rfl
      cases hd : (attempt respond path context e).declines with
      | true =>
        rw [goesOn hd, goesOn' hd]
        exact ih
      | false =>
        obtain ⟨told, -, heq⟩ := ends hd
        obtain ⟨told', -, heq'⟩ := ends' hd
        rw [heq, heq']
        exact ⟨rfl, rfl⟩

/-- A run depends on its targets only through their replies to the initial data and what their
entries add. -/
theorem tryCandidates_congr {data : RouteData τ} {candidates : List (Int × Inbound τ)}
    (h : ∀ c ∈ candidates, ∀ values, c.2.pattern.fit? path = some values →
      ∀ seen : RouteContext τ, seen.data = enter data c.2.target values →
        respond c.2.target seen = respond' c.2.target seen)
    (hdata : context.data = data) :
    tryCandidates respond path tried context candidates =
      tryCandidates respond' path tried context candidates := by
  induction candidates generalizing tried context with
  | nil => rfl
  | cons c rest ih =>
    obtain ⟨order, e⟩ := c
    have ih {n : Nat} {context' : RouteContext τ} (hdata' : context'.data = data) :
        tryCandidates respond path n context' rest = tryCandidates respond' path n context' rest :=
      ih (fun c hc => h c (List.mem_cons_of_mem _ hc)) hdata'
    simp only [tryCandidates]
    cases hfit : e.pattern.fit? path with
    | none => exact ih hdata
    | some values =>
      have hdispatch : dispatch respond context e.target (enter context.data e.target values) =
          dispatch respond' context e.target (enter context.data e.target values) := by
        unfold dispatch
        rw [h (order, e) List.mem_cons_self values hfit _ (by rw [hdata])]
      dsimp only
      rw [hdispatch]
      split
      · rw [ih hdata]
      · split
        · split
          · rfl
          next hopen => rw [ih ((data_dispatch (by simpa using hopen)).trans hdata)]
        all_goals rfl

/-! ### Whole requests -/

/-- The calls that a router itself makes, in order. -/
def calls (r : Router τ ν) (respond : τ → RouteContext τ → Reply τ) (context : RouteContext τ) :
    List (τ × RouteData τ) :=
  callsIn (r.route (muted respond) context).trace

/-- **Attempts are isolated and rolled back**: whatever the targets do, each one that a router
calls is given the initial values merged with those that the path gives to its own entry, and the
initial targets followed by itself; what the targets would reply to other data has no influence;
and if the request is unhandled when the call ends, in whatever way it ends, the data are those at
its start. -/
theorem route_isolated (r : Router τ ν) (respond : τ → RouteContext τ → Reply τ)
    (context : RouteContext τ) :
    (∀ call ∈ r.calls respond context,
      ∃ c ∈ r.candidates (.ofString context.request.path), ∃ values,
        c.2.pattern.fit? (.ofString context.request.path) = some values ∧
        call.1 = c.2.target ∧ call.2.values = context.data.values.merge values ∧
        call.2.targets = context.data.targets ++ [c.2.target]) ∧
    (∀ respond' : τ → RouteContext τ → Reply τ,
      (∀ c ∈ r.candidates (.ofString context.request.path), ∀ values,
        c.2.pattern.fit? (.ofString context.request.path) = some values →
        ∀ seen : RouteContext τ, seen.data.values = context.data.values.merge values →
          seen.data.targets = context.data.targets ++ [c.2.target] →
          respond c.2.target seen = respond' c.2.target seen) →
      r.route respond context = r.route respond' context) ∧
    ((r.route respond context).context.isHandled = false →
      (r.route respond context).context.data = context.data) := by
  refine ⟨fun call hcall => ?_, fun respond' h => ?_, fun hopen => ?_⟩
  · obtain ⟨c, hc, hfit, rfl⟩ := (attempts_tryCandidates _).mem_calls hcall
    obtain ⟨values, hfit⟩ := Option.isSome_iff_exists.1 hfit
    refine ⟨c, hc, values, hfit, rfl, ?_, rfl⟩
    rw [Inbound.entered, hfit, Option.getD_some]
  · refine tryCandidates_congr (fun c hc values hfit seen hseen => ?_) rfl
    exact h c hc values hfit seen (by rw [hseen]; rfl) (by rw [hseen]; rfl)
  · exact (attempts_tryCandidates _).data_eq hopen

/-- A router with two entries for one template. -/
def sample : Router String Unit where
  next := ()
  tries := [(Trie.empty 0).insertAll [Trie.sampleEntry "first", Trie.sampleEntry "second"]]
  links := .ofEntries []
  named := .empty
  version := 0

/-- A target that clears the data; the first one declines, and the other one fails. -/
def clearing (target : String) (context : RouteContext String) : Reply String where
  context := { context with data := ⟨.empty, []⟩ }
  ending := if target = "first" then .done else .failed "no"
  trace := []

/-- Both targets clear the data, and yet the data are back after the second one has failed. -/
theorem route_isolated_sample :
    (sample.route clearing ⟨⟨"GET", "/a/y"⟩, ⟨.empty, ["outer"]⟩, false⟩).context.data =
      ⟨.empty, ["outer"]⟩ :=
  (route_isolated sample clearing ⟨⟨"GET", "/a/y"⟩, ⟨.empty, ["outer"]⟩, false⟩).2.2
    (by decide +kernel)

end Router

end UrlRouting

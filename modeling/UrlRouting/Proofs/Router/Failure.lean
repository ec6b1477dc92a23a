import UrlRouting.Proofs.Router.Isolation

/-!
# What a failing router leaves behind

A router fails since a target has failed, and the context is the one that this target has left. The
data of the router are put back into it, unless the target has marked the request as handled before
it failed (`Router.route_failed`): it is the mark that decides, and not the failure. So a failure
may leave a trace (`Router.failure_leaves_trace`). Where no target sets the mark and then fails,
a failing router restores the data and is such a target itself, at any depth of nesting
(`FailsUnhandled.data_route`, `FailsUnhandled.routeAsTarget`).
-/

namespace UrlRouting

variable {τ ν : Type} {respond : τ → RouteContext τ → Reply τ}

namespace Router

variable {path : UrlPath} {context : RouteContext τ}

/-- The context that a failed target has left, with the data from before the call put back unless
the target has marked the request as handled. -/
def afterFailure (before : RouteData τ) (left : RouteContext τ) : RouteContext τ :=
  { left with data := if left.isHandled then left.data else before }

theorem context_dispatch (target : τ) (data : RouteData τ) :
    (dispatch respond context target data).context =
      afterFailure context.data (respond target { context with data }).context := by
  unfold dispatch afterFailure
  dsimp only
  split <;> rfl

/-- A run fails with the failure of the target of a candidate, which was called with the initial
data and what its entry adds. -/
theorem Attempts.failed {candidates : List (Int × Inbound τ)} {reply : Reply τ}
    (h : Attempts respond path context candidates reply) (hopen : context.isHandled = false)
    {reason : String} (hfailed : reply.ending = .failed reason) :
    ∃ c ∈ candidates, ∃ seen : RouteContext τ, seen.data = c.2.entered path context.data ∧
      seen.isHandled = false ∧ (respond c.2.target seen).ending = .failed reason ∧
      reply.context = afterFailure context.data (respond c.2.target seen).context := by
  induction h with
  | exhausted quiet => cases hfailed
  | passed rejects quiet goesOn ih =>
    obtain ⟨c, hc, seen, hseen⟩ := ih hopen hfailed
    exact ⟨c, List.mem_cons_of_mem _ hc, seen, hseen⟩
  | declined accepts declines goesOn ih =>
    -- the next candidate finds the initial data and an open request again
    have hdata := data_attempt declines
    simp only [Reply.declines, Bool.and_eq_true, Bool.not_eq_true'] at declines
    obtain ⟨c, hc, seen, hseen⟩ := ih declines.2 hfailed
    rw [hdata] at hseen
    exact ⟨c, List.mem_cons_of_mem _ hc, seen, hseen⟩
  | @ended context order e rest told accepts ends quiet =>
    exact ⟨(order, e), List.mem_cons_self, { context with data := e.entered path context.data },
      rfl, hopen, hfailed, context_dispatch ..⟩

/-- **What a failure leaves behind**: when a router fails on an open request, one of its candidates
was called with the initial data and what its own entry adds, and failed for that reason. The
context is the one that this target has left, with the initial data put back unless the target has
marked the request as handled before it failed. -/
theorem route_failed (r : Router τ ν) (respond : τ → RouteContext τ → Reply τ)
    (hopen : context.isHandled = false) {reason : String}
    (hfailed : (r.route respond context).ending = .failed reason) :
    ∃ c ∈ r.candidates (.ofString context.request.path), ∃ seen : RouteContext τ,
      seen.data = c.2.entered (.ofString context.request.path) context.data ∧
      seen.isHandled = false ∧ (respond c.2.target seen).ending = .failed reason ∧
      (r.route respond context).context =
        afterFailure context.data (respond c.2.target seen).context :=
  (attempts_tryCandidates _).failed hopen hfailed

/-- A target that marks the request as handled and then fails. -/
def markingFailure (_target : String) (context : RouteContext String) : Reply String where
  context := { context with isHandled := true }
  ending := .failed "no"
  trace := []

/-- A router fails, and the target that has failed is still among the targets of the request. -/
theorem route_failed_sample :
    (sample.route markingFailure ⟨⟨"GET", "/a/y"⟩, ⟨.empty, ["outer"]⟩, false⟩).ending =
      .failed "no" ∧
    ∃ target, (sample.route markingFailure
      ⟨⟨"GET", "/a/y"⟩, ⟨.empty, ["outer"]⟩, false⟩).context.data.targets = ["outer", target] := by
  have hfailed : (sample.route markingFailure
      ⟨⟨"GET", "/a/y"⟩, ⟨.empty, ["outer"]⟩, false⟩).ending = .failed "no" := by decide +kernel
  obtain ⟨c, -, seen, hseen, -, -, hcontext⟩ := route_failed sample markingFailure rfl hfailed
  refine ⟨hfailed, c.2.target, ?_⟩
  rw [hcontext]
  exact congrArg RouteData.targets hseen

/-- A failure may leave a trace in the data. -/
theorem failure_leaves_trace :
    ¬ ∀ (r : Router String Unit) (respond : String → RouteContext String → Reply String)
      (context : RouteContext String) (reason : String), context.isHandled = false →
      (r.route respond context).ending = .failed reason →
      (r.route respond context).context.data = context.data := by
  intro h
  have hdata := h sample markingFailure ⟨⟨"GET", "/a/y"⟩, ⟨.empty, ["outer"]⟩, false⟩ "no" rfl
    (by decide +kernel)
  exact absurd (congrArg RouteData.targets hdata) (by decide +kernel)

end Router

/-! ### Targets that do not fail handled requests -/

/-- Targets that fail leave a request unhandled that was so before. -/
def FailsUnhandled (respond : τ → RouteContext τ → Reply τ) : Prop :=
  ∀ target context reason, context.isHandled = false →
    (respond target context).ending = .failed reason →
    (respond target context).context.isHandled = false

namespace FailsUnhandled

variable {context : RouteContext τ} {reason : String}

/-- A router with such targets restores the data before it fails. -/
theorem data_route (h : FailsUnhandled respond) (r : Router τ ν)
    (hopen : context.isHandled = false)
    (hfailed : (r.route respond context).ending = .failed reason) :
    (r.route respond context).context.isHandled = false ∧
      (r.route respond context).context.data = context.data := by
  obtain ⟨c, -, seen, -, hseen, hreason, hcontext⟩ :=
    (Router.attempts_tryCandidates _).failed hopen hfailed
  have hleft := h c.2.target seen reason hseen hreason
  have hcontext : (r.route respond context).context =
      Router.afterFailure context.data (respond c.2.target seen).context := hcontext
  rw [hcontext]
  exact ⟨hleft, if_neg (by simp [hleft])⟩

/-- Such a router is such a target of another one. -/
theorem routeAsTarget (h : FailsUnhandled respond) (routers : τ → Router τ ν) :
    FailsUnhandled fun target context => (routers target).routeAsTarget respond context := by
  intro target context reason hopen hfailed
  unfold Router.routeAsTarget at hfailed ⊢
  dsimp only at hfailed ⊢
  split
  next inner hinner => exact (h.data_route (routers target) hopen hinner).1
  next hinner =>
    split at hfailed
    next inner hinner' => exact absurd hinner' (hinner inner)
    next => exact absurd hfailed (hinner reason)

end FailsUnhandled

end UrlRouting

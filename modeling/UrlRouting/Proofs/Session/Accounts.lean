import Mathlib.Data.List.Count
import UrlRouting.Proofs.Router.History
import UrlRouting.Proofs.Telemetry.Counting
import UrlRouting.Session.Basic

/-!
# The metrics tell what happened

`Work` is what any code may do with routers: build some, route requests, ask for links, and go on as
the answers say. Targets and receivers do such work inside, in a `World` in which calls may go as
deep as one likes. Whatever is done, the measurements that are taken are those of the history of
all that has happened, on every level (`Work.measurements_trace`). So a registry that takes them
tells what happened (`Registry.TellsOf`), and so does the registry of a session, each step of which
is some work (`Registry.tells_what_happened`).
-/

namespace UrlRouting

variable {τ ν α : Type}

/-! ### What a registry tells of a history -/

namespace Happening

/-- The outcome of a request from which a router has come back, and the fates of the candidates. -/
def returned? : Happening τ → Option (Outcome × List (Fate τ))
  | routed fates => (outcome? fates).map fun outcome => (outcome, fates)
  | _ => none

/-- The name of the constraint and the direction, where a constraint is not content. -/
def rejection? : Happening τ → Option (String × Direction)
  | rejected constraint direction => some (constraint, direction)
  | _ => none

/-- How a link was asked for, and whether it was written, where a router has come back. -/
def link? : Happening τ → Option (Bool × Bool)
  | linked named fates => (linkOutcome? fates).map fun link? => (named, link?.isSome)
  | _ => none

/-- Whether a router has been asked for a link. -/
def asksLink : Happening τ → Bool
  | linked _ _ => true
  | _ => false

/-- Whether a router has been asked for a link and has not come back. -/
def losesLink : Happening τ → Bool
  | linked _ fates => (linkOutcome? fates).isNone
  | _ => false

/-- The entries of a router that was built. -/
def build? : Happening τ → Option Nat
  | built entries => some entries
  | _ => none

end Happening

namespace History

/-- The requests from which routers have come back, with the fates of the candidates. -/
def returned (history : History τ) : List (Outcome × List (Fate τ)) :=
  history.filterMap Happening.returned?

/-- The rejections: by which constraint, and which way the router was used. -/
def rejections (history : History τ) : List (String × Direction) :=
  history.filterMap Happening.rejection?

/-- The requests for links from which routers have come back: by name or not, and written or not. -/
def links (history : History τ) : List (Bool × Bool) := history.filterMap Happening.link?

/-- The routers that were built, by the number of entries for requests. -/
def builds (history : History τ) : List Nat := history.filterMap Happening.build?

variable (history : History τ)

/-- What is found among the measurements is found among the happenings, if so it is for one of each
kind. -/
theorem filterMap_measurements {β : Type} {f : Measurement → Option β}
    {g : Happening τ → Option β}
    (hrouted : ∀ fates, ((outcome? fates).bind fun outcome =>
      f (.routed outcome.label (tried fates))) = g (.routed fates))
    (hrejected : ∀ constraint direction,
      f (.rejected constraint direction.label) = g (.rejected constraint direction))
    (hlinked : ∀ named fates, ((linkOutcome? fates).bind fun link? =>
      f (.linked named link?.isSome)) = g (.linked named fates))
    (hbuilt : ∀ entries, f (.built entries) = g (.built entries)) :
    history.measurements.filterMap f = history.filterMap g := by
  rw [measurements, List.filterMap_filterMap]
  refine List.filterMap_congr fun happening _ => ?_
  cases happening with
  | routed fates => rw [← hrouted, Happening.measurement?, Option.bind_map]; rfl
  | rejected constraint direction => exact hrejected constraint direction
  | linked named fates => rw [← hlinked, Happening.measurement?, Option.bind_map]; rfl
  | built entries => exact hbuilt entries

theorem routed?_measurements : history.measurements.filterMap Measurement.routed? =
    history.returned.map fun c => (c.1.label, tried c.2) := by
  rw [returned, List.map_filterMap]
  refine history.filterMap_measurements (fun fates => ?_) (fun _ _ => rfl) (fun _ fates => ?_)
    fun _ => rfl
  · rw [Happening.returned?]
    cases outcome? fates <;> rfl
  · cases linkOutcome? fates <;> rfl

theorem rejected?_measurements : history.measurements.filterMap Measurement.rejected? =
    history.rejections.map fun r => (r.1, r.2.label) := by
  rw [rejections, List.map_filterMap]
  refine history.filterMap_measurements (fun fates => ?_) (fun _ _ => rfl) (fun _ fates => ?_)
    fun _ => rfl
  · cases outcome? fates <;> rfl
  · cases linkOutcome? fates <;> rfl

theorem linked?_measurements :
    history.measurements.filterMap Measurement.linked? = history.links := by
  refine history.filterMap_measurements (fun fates => ?_) (fun _ _ => rfl) (fun _ fates => ?_)
    fun _ => rfl
  · cases outcome? fates <;> rfl
  · rw [Happening.link?]
    cases linkOutcome? fates <;> rfl

theorem built?_measurements :
    history.measurements.filterMap Measurement.built? = history.builds := by
  refine history.filterMap_measurements (fun fates => ?_) (fun _ _ => rfl) (fun _ fates => ?_)
    fun _ => rfl
  · cases outcome? fates <;> rfl
  · cases linkOutcome? fates <;> rfl

/-- Of the requests for links, routers come back from all but those that are lost. -/
theorem length_links_add :
    history.links.length + history.countP Happening.losesLink =
      history.countP Happening.asksLink := by
  rw [links]
  induction history with
  | nil => rfl
  | cons happening history ih =>
    rw [List.filterMap_cons, List.countP_cons, List.countP_cons, ← ih]
    cases happening with
    | linked named fates =>
      rw [Happening.link?, Happening.losesLink, Happening.asksLink]
      cases linkOutcome? fates with
      | some link? => exact Nat.add_right_comm _ _ _
      | none => rfl
    | _ => rfl

end History

namespace Registry

/-- What a registry tells of all that has happened. -/
structure TellsOf (registry : Registry) (history : History τ) : Prop where
  /-- An outcome is counted once for each request from which a router has come back with it. -/
  requests : ∀ outcome : Outcome, registry.requests.count (outcomeLabels outcome.label) =
    (history.returned.map Prod.fst).count outcome
  /-- No other requests are counted. -/
  allRequests : registry.requests.total id = history.returned.length
  /-- One duration is observed for each of them. -/
  durations : ∀ outcome : Outcome,
    ((registry.durations.get? (outcomeLabels outcome.label)).getD
      (.withBounds durationBounds)).Holds ((history.returned.map Prod.fst).count outcome)
  /-- No other durations are observed. -/
  allDurations : registry.durations.total Histogram.count = history.returned.length
  /-- One number of candidates is observed for each of them: so many have been tried. -/
  candidates : registry.candidates = (history.returned.map fun c => Float.ofNat (tried c.2)).foldl
    Histogram.observe (.withBounds candidateBounds)
  /-- No other numbers are observed. -/
  allCandidates : registry.candidates.Holds history.returned.length
  /-- A rejection is counted for the constraint that was not content, and the direction. -/
  rejections : ∀ (constraint : String) (direction : Direction),
    registry.rejections.count (rejectionLabels constraint direction.label) =
      history.rejections.count (constraint, direction)
  /-- No other rejections are counted. -/
  allRejections : registry.rejections.total id = history.rejections.length
  /-- A request for a link from which a router has come back is counted by how it was asked for, and
  whether the link was written. -/
  links : ∀ named generated : Bool, registry.links.count (linkLabels named generated) =
    history.links.count (named, generated)
  /-- No other links are counted. -/
  allLinks : registry.links.total id = history.links.length
  /-- So all requests for links are counted but those over which a receiver has broken down. -/
  linkCalls : registry.links.total id + history.countP Happening.losesLink =
    history.countP Happening.asksLink
  /-- The routers that were built are counted. -/
  routersBuilt : registry.routersBuilt = history.builds.length
  /-- The entries are those of the router that was built last. -/
  routeEntries : registry.routeEntries = (history.builds.getLast?.map signed64).getD 0

theorem outcomeLabels_injective :
    Function.Injective fun outcome : Outcome => outcomeLabels outcome.label := by
  intro a b hab
  revert hab
  cases a <;> cases b <;> decide

theorem rejectionLabels_injective :
    Function.Injective fun c : String × Direction => rejectionLabels c.1 c.2.label := by
  rintro ⟨name, direction⟩ ⟨name', direction'⟩ h
  simp only [rejectionLabels, List.cons.injEq, Prod.mk.injEq] at h
  obtain ⟨⟨-, rfl⟩, ⟨-, hlabel⟩, -⟩ := h
  revert hlabel
  cases direction <;> cases direction' <;> simp [Direction.label]

theorem linkLabels_injective :
    Function.Injective fun c : Bool × Bool => linkLabels c.1 c.2 := by
  rintro ⟨named, generated⟩ ⟨named', generated'⟩
  revert named generated named' generated'
  decide

variable (history : History τ) (seconds : Nat → Float)

/-- The labels under which requests are counted are those of the outcomes. -/
theorem map_outcomeLabels :
    (history.measurements.filterMap Measurement.routed?).map (fun c => outcomeLabels c.1) =
      (history.returned.map Prod.fst).map fun outcome => outcomeLabels outcome.label := by
  rw [history.routed?_measurements, List.map_map, List.map_map]
  rfl

/-- The labels under which rejections are counted are those of the constraints and directions. -/
theorem map_rejectionLabels :
    (history.measurements.filterMap Measurement.rejected?).map (fun c => rejectionLabels c.1 c.2) =
      history.rejections.map fun c => rejectionLabels c.1 c.2.label := by
  rw [history.rejected?_measurements, List.map_map]
  rfl

theorem length_timesOf :
    (timesOf seconds history.measurements).length = history.returned.length := by
  rw [← List.length_map (f := Prod.fst), map_fst_timesOf, map_outcomeLabels, List.length_map,
    List.length_map]

theorem candidates_measurements :
    (empty.recordTimed seconds history.measurements).candidates =
      (history.returned.map fun c => Float.ofNat (tried c.2)).foldl Histogram.observe
        (.withBounds candidateBounds) := by
  rw [candidates_recordTimed, history.routed?_measurements, List.map_map]
  rfl

theorem total_links : (empty.recordTimed seconds history.measurements).links.total id =
    history.links.length := by
  rw [links_recordTimed, history.linked?_measurements, Family.total_foldl_increment,
    List.length_map]
  exact Nat.zero_add _

/-- A registry that has taken the measurements of a history tells of it. -/
theorem tellsOf_measurements : (empty.recordTimed seconds history.measurements).TellsOf history where
  requests := by
    intro outcome
    rw [requests_recordTimed, map_outcomeLabels, Family.count_foldl_increment,
      List.count_map_of_injective _ _ outcomeLabels_injective]
    exact Nat.zero_add _
  allRequests := by
    rw [requests_recordTimed, map_outcomeLabels, Family.total_foldl_increment, List.length_map,
      List.length_map]
    exact Nat.zero_add _
  durations := by
    intro outcome
    have hall := (Family.allHold_empty durationBounds).foldl_observe
      (timesOf seconds history.measurements) (outcomeLabels outcome.label)
    dsimp only at hall
    rw [map_fst_timesOf, map_outcomeLabels,
      List.count_map_of_injective _ _ outcomeLabels_injective, Nat.zero_add] at hall
    rw [durations_recordTimed]
    exact hall
  allDurations := by
    rw [durations_recordTimed, Family.total_foldl_observe, length_timesOf]
    exact Nat.zero_add _
  candidates := candidates_measurements history seconds
  allCandidates := by
    have hall := (Histogram.holds_withBounds candidateBounds).foldl_observe
      (history.returned.map fun c => Float.ofNat (tried c.2))
    rw [List.length_map, Nat.zero_add] at hall
    rw [candidates_measurements]
    exact hall
  rejections := by
    intro constraint direction
    rw [rejections_recordTimed, map_rejectionLabels, Family.count_foldl_increment]
    exact (Nat.zero_add _).trans
      (List.count_map_of_injective _ _ rejectionLabels_injective (constraint, direction))
  allRejections := by
    rw [rejections_recordTimed, map_rejectionLabels, Family.total_foldl_increment, List.length_map]
    exact Nat.zero_add _
  links := by
    intro named generated
    rw [links_recordTimed, history.linked?_measurements, Family.count_foldl_increment]
    exact (Nat.zero_add _).trans
      (List.count_map_of_injective _ _ linkLabels_injective (named, generated))
  allLinks := total_links history seconds
  linkCalls := by rw [total_links, history.length_links_add]
  routersBuilt := by
    rw [routersBuilt_recordTimed, history.built?_measurements]
    exact Nat.zero_add _
  routeEntries := by
    rw [routeEntries_recordTimed, history.built?_measurements]
    rfl

end Registry

/-! ### Code that uses routers -/

/-- What code does with routers, one thing after another. It goes on as the answers say, and has a
result in the end. -/
inductive Work (τ ν α : Type) where
  /-- Nothing is left to do. -/
  | done (result : α)
  /-- Something happens that is not measured. -/
  | tell (occurrence : Occurrence τ) (quiet : occurrence.measurement? = none) (next : Work τ ν α)
  /-- A router is built. -/
  | build (draft : Draft τ ν) (version : Int)
      (next : Except BuildError (Router τ ν) → Work τ ν α)
  /-- A request is routed. -/
  | route (router : Router τ ν) (context : RouteContext τ)
      (next : RouteContext τ → Ending → Work τ ν α)
  /-- A link is asked for. -/
  | link (router : Router τ ν) (q : LinkRequest)
      (next : Option Link → Bool → LinkEnding → Work τ ν α)

namespace Work

variable (c : Calling τ ν)

/-- The result of the work. -/
def result : Work τ ν α → α
  | done a => a
  | tell _ _ next => next.result
  | build draft version next => (next (draft.build version)).result
  | route router context next =>
    let reply := router.route c.respond context
    (next reply.context reply.ending).result
  | link router q next =>
    let reply := router.link c.receive q
    (next reply.link? reply.isBound reply.ending).result

/-- What is told and counted. -/
def trace : Work τ ν α → List (Occurrence τ)
  | done _ => []
  | tell occurrence _ next => occurrence :: next.trace
  | build draft version next => draft.buildTrace version ++ (next (draft.build version)).trace
  | route router context next =>
    let reply := router.route c.respond context
    reply.trace ++ (next reply.context reply.ending).trace
  | link router q next =>
    let reply := router.link c.receive q
    reply.trace ++ (next reply.link? reply.isBound reply.ending).trace

/-- What happens. -/
def history : Work τ ν α → History τ
  | done _ => []
  | tell _ _ next => next.history
  | build draft version next => draft.buildHistory version ++ (next (draft.build version)).history
  | route router context next =>
    let reply := router.route c.respond context
    router.routeHistory c context ++ (next reply.context reply.ending).history
  | link router q next =>
    let reply := router.link c.receive q
    router.linkHistory c q ++ (next reply.link? reply.isBound reply.ending).history

/-- Whatever is done, what is measured is what happens. -/
theorem measurements_trace (work : Work τ ν α) :
    measurementsIn (work.trace c) = (work.history c).measurements := by
  induction work with
  | done a => rfl
  | tell occurrence quiet next ih =>
    rw [trace, history, ← ih]
    exact List.filterMap_cons_none quiet
  | build draft version next ih =>
    rw [trace, history, measurementsIn_append, History.measurements_append,
      Draft.measurements_buildTrace, ih]
  | route router context next ih =>
    rw [trace, history, measurementsIn_append, History.measurements_append,
      Router.measurements_route, ih]
  | link router q next ih =>
    rw [trace, history, measurementsIn_append, History.measurements_append,
      Router.measurements_link, ih]

end Work

/-! ### Targets and receivers -/

namespace Calling

/-- Targets that do nothing with a request, and receivers that accept no values. -/
def idle : Calling τ ν where
  respond _ context := ⟨context, .done, []⟩
  receive _ _ := ⟨none, false, .answered, []⟩
  inTarget _ _ := []
  inReceiver _ _ := []
  target_measured _ _ := rfl
  receiver_measured _ _ := rfl

/-- Targets and receivers that do some work with routers whose own targets and receivers are called
in the given way. -/
def around (c : Calling τ ν) (target : τ → RouteContext τ → Work τ ν (RouteContext τ × Ending))
    (receiver : ν → LinkRequest → Work τ ν (Option Link × Bool × LinkEnding)) : Calling τ ν where
  respond t context :=
    let work := target t context
    ⟨(work.result c).1, (work.result c).2, work.trace c⟩
  receive v q :=
    let work := receiver v q
    ⟨(work.result c).1, (work.result c).2.1, (work.result c).2.2, work.trace c⟩
  inTarget t context := (target t context).history c
  inReceiver v q := (receiver v q).history c
  target_measured t context := (target t context).measurements_trace c
  receiver_measured v q := (receiver v q).measurements_trace c

end Calling

/-- The work of targets and receivers. It may depend on how deep calls can still go. -/
structure World (τ ν : Type) where
  /-- What a target does with a request: it leaves a context, and ends in some way. -/
  target : Nat → τ → RouteContext τ → Work τ ν (RouteContext τ × Ending)
  /-- What a receiver does with a question: it gives a link or not, accepts the values or not, and
  answers or breaks down. -/
  receiver : Nat → ν → LinkRequest → Work τ ν (Option Link × Bool × LinkEnding)

/-- How targets and receivers of a world are called where calls go so deep. -/
def World.calling (w : World τ ν) : Nat → Calling τ ν
  | 0 => .idle
  | depth + 1 => (w.calling depth).around (w.target depth) (w.receiver depth)

/-- Some work in a world, the calls going so deep. -/
structure Stage (τ ν : Type) where
  /-- The targets and receivers. -/
  world : World τ ν
  /-- How deep calls go. -/
  depth : Nat
  /-- The work. -/
  work : Work τ ν Unit

namespace Stage

/-- What is told and counted. -/
def trace (s : Stage τ ν) : List (Occurrence τ) := s.work.trace (s.world.calling s.depth)

/-- What happens. -/
def history (s : Stage τ ν) : History τ := s.work.history (s.world.calling s.depth)

/-- One stage after another, what is measured is what happens. -/
theorem measurements_flatMap (stages : List (Stage τ ν)) :
    measurementsIn (stages.flatMap trace) = History.measurements (stages.flatMap history) := by
  induction stages with
  | nil => rfl
  | cons s stages ih =>
    rw [List.flatMap_cons, List.flatMap_cons, measurementsIn_append, History.measurements_append,
      ih, trace, history, Work.measurements_trace]

end Stage

/-! ### Sessions -/

/-- An ending in the words of a router that is called as a target. -/
def Ending.reported : Ending → Ending
  | failed reason => failed (failureMessage reason)
  | ending => ending

namespace Session

/-- What the router of a number does as a target, if there is one. -/
def routerAsTarget (r? : Option SessionRouter) (context : RouteContext Target) :
    Work Target Receiver (RouteContext Target × Ending) :=
  match r? with
  | some r => .route r context fun context ending => .done (context, ending.reported)
  | none => .done (context, .done)

/-- What the router of a number does as a receiver, if there is one. -/
def routerAsReceiver (r? : Option SessionRouter) (q : LinkRequest) :
    Work Target Receiver (Option Link × Bool × LinkEnding) :=
  match r? with
  | some r => .link r q fun link? isBound ending => .done (link?, isBound, ending)
  | none => .done (none, false, .answered)

/-- The targets and receivers of a session. -/
def world (routers : List SessionRouter) : World Target Receiver where
  target
    | _, .scripted name behaviour, context =>
      let reply := behaviour.reply name context
      .done (reply.context, reply.ending)
    | 0, .router _, context => .done (context, .done)
    | _ + 1, .router index, context => routerAsTarget routers[index]? context
  receiver
    | _, .accept, q => .tell (.asked q) rfl (.done (none, true, .answered))
    | _, .reject, q => .tell (.asked q) rfl (.done (none, false, .answered))
    | _, .url text, q =>
      .tell (.asked q) rfl (.done (some { url := text, template? := none }, false, .answered))
    | _, .names required, q =>
      .tell (.asked q) rfl
        (.done (none, q.provided?.any fun provided => required.all provided.has, .answered))
    | _, .panic, q => .tell (.asked q) rfl (.done (none, false, .panicked))
    | 0, .router _, _ => .done (none, false, .answered)
    | _ + 1, .router index, q => routerAsReceiver routers[index]? q

variable (c : Calling Target Receiver)

theorem reply_routerAsTarget (r? : Option SessionRouter) (context : RouteContext Target) :
    (match r? with
      | some r => r.routeAsTarget c.respond context
      | none => ⟨context, .done, []⟩ : Reply Target) =
      ⟨((routerAsTarget r? context).result c).1, ((routerAsTarget r? context).result c).2,
        (routerAsTarget r? context).trace c⟩ := by
  cases r? with
  | some r =>
    dsimp only [routerAsTarget, Work.result, Work.trace]
    obtain ⟨⟨left, ending, trace⟩, hreply⟩ : ∃ reply, r.route c.respond context = reply :=
      ⟨_, rfl⟩
    rw [Router.routeAsTarget, hreply, List.append_nil]
    cases ending <;> rfl
  | none => rfl

theorem reply_routerAsReceiver (r? : Option SessionRouter) (q : LinkRequest) :
    (match r? with
      | some r => r.link c.receive q
      | none => ⟨none, false, .answered, []⟩ : LinkReply Target) =
      ⟨((routerAsReceiver r? q).result c).1, ((routerAsReceiver r? q).result c).2.1,
        ((routerAsReceiver r? q).result c).2.2, (routerAsReceiver r? q).trace c⟩ := by
  cases r? with
  | some r =>
    dsimp only [routerAsReceiver, Work.result, Work.trace]
    rw [List.append_nil]
  | none => rfl

/-- The targets of a session do the work of its world. -/
theorem respondWith_eq (routers : List SessionRouter) (depth : Nat) :
    respondWith routers depth = ((world routers).calling (depth + 1)).respond := by
  induction depth with
  | zero =>
    funext target context
    cases target with
    | scripted name behaviour => cases behaviour <;> rfl
    | router index => rfl
  | succ depth ih =>
    funext target context
    cases target with
    | scripted name behaviour => cases behaviour <;> rfl
    | router index =>
      rw [respondWith, ih]
      exact reply_routerAsTarget ((world routers).calling (depth + 1)) routers[index]? context

/-- The receivers of a session do the work of its world. -/
theorem receiveWith_eq (routers : List SessionRouter) (depth : Nat) :
    receiveWith routers depth = ((world routers).calling (depth + 1)).receive := by
  induction depth with
  | zero =>
    funext receiver q
    cases receiver <;> rfl
  | succ depth ih =>
    funext receiver q
    cases receiver with
    | router index =>
      rw [receiveWith, ih]
      exact reply_routerAsReceiver ((world routers).calling (depth + 1)) routers[index]? q
    | _ => rfl

/-- What a step does with routers. -/
def work (s : Session) : Step → Work Target Receiver Unit
  | .build version => .build s.draft version fun _ => .done ()
  | .route index context =>
    match s.routers[index]? with
    | some router => .route router context fun _ _ => .done ()
    | none => .done ()
  | .link index q =>
    match s.routers[index]? with
    | some router => .link router q fun _ _ _ => .done ()
    | none => .done ()
  | _ => .done ()

/-- The stage that a step is. -/
def stage (s : Session) (step : Step) : Stage Target Receiver where
  world := world s.routers
  depth := s.routers.length + 1
  work := s.work step

/-- The stages that steps are, one after another. -/
def stages (s : Session) : List Step → List (Stage Target Receiver)
  | [] => []
  | step :: steps => s.stage step :: (s.perform step).1.stages steps

/-- What is told and counted of a step is what its work tells and counts. -/
theorem trace_act (s : Session) (step : Step) : (s.act step).2.2 = (s.stage step).trace := by
  have hrespond : s.respond = ((world s.routers).calling (s.routers.length + 1)).respond :=
    respondWith_eq ..
  have hreceive : s.receive = ((world s.routers).calling (s.routers.length + 1)).receive :=
    receiveWith_eq ..
  cases step with
  | addRoute route target =>
    rw [act]
    cases s.draft.addRoute s.catalog route target <;> rfl
  | build version =>
    rw [act, Stage.trace, stage, work, Work.trace, Draft.buildTrace]
    cases s.draft.build version with
    | ok router => exact (List.append_nil _).symm
    | error e => rfl
  | route index context =>
    rw [act, Stage.trace, stage, work]
    cases s.routers[index]? with
    | some router =>
      dsimp only
      rw [hrespond]
      exact (List.append_nil _).symm
    | none => rfl
  | link index q =>
    rw [act, Stage.trace, stage, work]
    cases s.routers[index]? with
    | some router =>
      dsimp only
      rw [hreceive]
      exact (List.append_nil _).symm
    | none => rfl
  | _ => rfl

/-- A step leaves the registry to its measurements. -/
theorem registry_act (s : Session) (step : Step) : (s.act step).1.registry = s.registry := by
  cases step with
  | addRoute route target =>
    rw [act]
    cases s.draft.addRoute s.catalog route target <;> rfl
  | build version =>
    rw [act]
    cases s.draft.build version <;> rfl
  | route index context =>
    rw [act]
    cases s.routers[index]? <;> rfl
  | link index q =>
    rw [act]
    cases s.routers[index]? <;> rfl
  | _ => rfl

/-- A step adds what is measured of it to the registry. -/
theorem registry_perform (s : Session) (step : Step) : (s.perform step).1.registry =
    s.registry.recordAll 0 (measurementsIn (s.stage step).trace) := by
  rw [← trace_act, ← registry_act s step]
  rfl

/-- Steps add what is measured of them to the registry. -/
theorem registry_performAll (s : Session) (steps : List Step) : (s.performAll steps).registry =
    s.registry.recordAll 0 (measurementsIn ((s.stages steps).flatMap Stage.trace)) := by
  induction steps generalizing s with
  | nil => rfl
  | cons step steps ih =>
    rw [stages, List.flatMap_cons, measurementsIn_append, Registry.recordAll, List.foldl_append]
    refine (ih (s.perform step).1).trans ?_
    rw [registry_perform]
    rfl

end Session

/-- **The metrics tell what happened**: whatever code does with routers that share a registry, and
whatever targets and receivers do, be they routers or use routers inside, the registry tells of all
that has happened on every level, however long requests take. So does the registry of a session.
The fates of the candidates of a request are what they should be: the router itself calls just the
targets among them, and they agree with its reply, so that there is no outcome if and only if the
router does not come back. So are the fates of the entries for a link: the router itself asks just
the questions among them, and they have its answer, if it comes back with one. -/
theorem Registry.tells_what_happened :
    (∀ (stages : List (Stage τ ν)) (seconds : Nat → Float),
      (Registry.empty.recordTimed seconds (measurementsIn (stages.flatMap Stage.trace))).TellsOf
        (stages.flatMap Stage.history)) ∧
    (∀ (next : Receiver) (catalog : ConstraintCatalog) (steps : List Step),
      ((Session.start next catalog).performAll steps).registry.TellsOf
        (((Session.start next catalog).stages steps).flatMap Stage.history)) ∧
    (∀ (r : Router τ ν) (respond : τ → RouteContext τ → Reply τ) (context : RouteContext τ),
      callsIn (r.route (muted respond) context).trace =
        (r.fates respond context).filterMap Fate.call? ∧
      Router.Agrees (r.candidates (.ofString context.request.path)) (r.fates respond context)
        (r.route respond context)) ∧
    ∀ (r : Router τ ν) (receive : ν → LinkRequest → LinkReply τ) (q : LinkRequest),
      questionsIn (r.link (questioned receive) q).trace =
        (r.linkFates receive q).filterMap LinkFate.question? ∧
      (r.link receive q).answer? = linkOutcome? (r.linkFates receive q) := by
  refine ⟨fun stages seconds => ?_, fun next catalog steps => ?_, fun r respond context => ?_,
    fun r receive q => ?_⟩
  · rw [Stage.measurements_flatMap]
    exact tellsOf_measurements _ _
  · rw [Session.registry_performAll, recordAll_eq_recordTimed, Stage.measurements_flatMap]
    exact tellsOf_measurements _ _
  · exact ⟨r.calls_route respond context, r.agrees_route respond context⟩
  · exact ⟨r.questions_link receive q, r.answer?_link receive q⟩

namespace Session

/-- An entry for `/a`. -/
def sampleEntry (target : Target) : Inbound Target where
  order := 0
  name? := none
  pattern := .ofTemplate (.ofSegments [[.literal "a"]]) .empty
  constraints := .empty
  target := target

/-- A failure is counted once for each router that it goes through. -/
example :
    let steps : List Step :=
      [.addInbound (sampleEntry (.scripted "target" .fail)), .build 1, .begin .accept .empty,
        .addInbound (sampleEntry (.router 0)), .build 2,
        .route 1 ⟨⟨"GET", "/a"⟩, ⟨.empty, []⟩, false⟩]
    let registry := ((start .accept .empty).performAll steps).registry
    registry.requests.count (Registry.outcomeLabels Outcome.error.label) = 2 ∧
      registry.requests.total id = 2 ∧ registry.routersBuilt = 2 := by
  decide +kernel

/-- An entry for links to `/a`. -/
def sampleLinkEntry : Outbound where
  name? := some "a"
  pattern := .ofTemplate (.ofSegments [[.literal "a"]]) .empty
  constraints := .empty
  requirements := []
  group? := none

/-- A link is counted only where the receiver does not break down. -/
example :
    let ask (router : Nat) : Step := .link router ⟨⟨"GET", "/"⟩, .empty, .empty, some "A", none⟩
    let steps : List Step :=
      [.addOutbound sampleLinkEntry, .build 1, .begin .accept .empty, .addOutbound sampleLinkEntry,
        .build 2, ask 0, ask 1]
    let registry := ((start .panic .empty).performAll steps).registry
    registry.links.count (Registry.linkLabels true true) = 1 ∧ registry.links.total id = 1 := by
  decide +kernel

end Session

end UrlRouting

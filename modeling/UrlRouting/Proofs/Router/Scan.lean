import UrlRouting.Proofs.Router.Isolation
import UrlRouting.Router.Draft

/-!
# Routing is a scan

A router finds its candidates by walking tries, one for each order. `ranked` finds them without any
trie: it keeps the entries that the path fits and sorts them by one lexicographic comparison. The
order of a trie, the route along which an entry ends and the rank within a node are the parts of
this comparison (`Trie.filter_candidates`, `filter_triesOf`), so the calls of a router are those
along this list (`callsAlong`). If the targets keep the request, they are those of the entries that
accept it (`scan`), up to the first one that does not decline (`Draft.route_scan`).
-/

namespace UrlRouting

open Text

/-! ### The comparison -/

/-- How particular a segment is for a walk: a literal most of all, then a constrained parameter or
several parts, a parameter, a constrained catch-all and a catch-all. -/
def Segment.kind : Segment → Nat
  | [.literal _] => 0
  | [.parameter p] =>
    match p.isCatchAll, p.isConstrained with
    | false, true => 1
    | false, false => 2
    | true, true => 3
    | true, false => 4
  | _ => 1

theorem kind_branch (s : Segment) : s.branch.kind = s.kind := by
  match s with
  | [] => rfl
  | [.literal text] => rfl
  | [.parameter ⟨_, isCatchAll, _, _, constraints⟩] =>
    cases isCatchAll <;> cases constraints <;> rfl
  | .literal _ :: _ :: _ => rfl
  | .parameter _ :: _ :: _ => rfl

namespace Inbound

variable {τ : Type}

/-- The kinds of the first segments of an entry, as many as there are pieces. -/
def kinds (e : Inbound τ) (pieces : List String) : List Nat :=
  (e.pattern.template.segments.take pieces.length).map Segment.kind

/-- Compares two entries by order, by the kinds of their first segments and by rank. -/
def compareFor (pieces : List String) (a b : Inbound τ) : Ordering :=
  (compare a.order b.order).then
    ((compare (a.kinds pieces) (b.kinds pieces)).then (a.compareRank b))

instance (pieces : List String) :
    Std.TransCmp (compareFor pieces : Inbound τ → Inbound τ → Ordering) :=
  inferInstanceAs (Std.TransCmp (compareLex (compareOn fun e : Inbound τ => e.order)
    (compareLex (compareOn fun e => e.kinds pieces) compareRank)))

/-- Entries of one order whose first segments are of the same kinds compare by rank. -/
theorem compareFor_of_eq {pieces : List String} {a b : Inbound τ} (horder : a.order = b.order)
    (hkinds : a.kinds pieces = b.kinds pieces) : a.compareFor pieces b = a.compareRank b := by
  simp only [compareFor, horder, hkinds, Std.ReflOrd.compare_self, Ordering.then]

theorem kinds_of_endsAt {e : Inbound τ} (hlast : CatchAllLast e.pattern.template.segments)
    {pieces : List String} {label : List Branch} (hmem : label ∈ routes pieces)
    (h : e.endsAt label) : e.kinds pieces = label.map Branch.kind := by
  rw [RoutePattern.map_kind_route hlast hmem h]
  simp only [kind_branch]
  rfl

end Inbound

/-! ### Tries -/

section

variable {τ : Type} {es : List (Inbound τ)} {path : UrlPath} {p : Inbound τ → Bool}

/-- Those candidates of a trie that are kept by a test which only entries pass that the path fits
are the entries that pass it, in the order of the comparison. -/
theorem Trie.filter_candidates {order : Int} (horder : ∀ e ∈ es, e.order = order)
    (hlast : ∀ e ∈ es, CatchAllLast e.pattern.template.segments)
    (hfit : ∀ e ∈ es, p e → (e.pattern.fit? path).isSome) :
    ((ofEntries order es).candidates path).filter p =
      (es.filter p).mergeSort fun a b => (a.compareFor path.pieces b).isLE := by
  have hes {e : Inbound τ} (he : e ∈ es.filter p) := (List.mem_filter.1 he).1
  calc
    _ = (routes path.pieces).flatMap fun label =>
        ((es.filter p).filter (·.endsAt label)).mergeSort
          fun a b => (a.compareFor path.pieces b).isLE := by
      rw [candidates_ofEntries, List.filter_flatMap]
      refine List.flatMap_congr fun label hmem => ?_
      rw [mergeSort_congr fun a _ b _ => Inbound.isLE_eq a b,
        (Ranking.of_compare Inbound.compareRank).filter_mergeSort, List.filter_comm]
      refine mergeSort_congr fun a ha b hb => ?_
      obtain ⟨ha, haends⟩ := List.mem_filter.1 ha
      obtain ⟨hb, hbends⟩ := List.mem_filter.1 hb
      rw [Inbound.compareFor_of_eq]
      · rw [horder a (hes ha), horder b (hes hb)]
      · rw [Inbound.kinds_of_endsAt (hlast a (hes ha)) hmem haends,
          Inbound.kinds_of_endsAt (hlast b (hes hb)) hmem hbends]
    _ = _ := by
      refine (Ranking.of_compare (Inbound.compareFor path.pieces)).flatMap_buckets
        (fun label e => e.endsAt label) (fun e he => ?_) ?_
      · obtain ⟨hroom, hfits⟩ :=
          RoutePattern.isSome_fit? path |>.1 (hfit e (hes he) (List.mem_filter.1 he).2)
        exact RoutePattern.exists_route (hlast e (hes he)) hroom hfits
      · refine (routes_ascending path.pieces).imp_of_mem ?_
        intro label label' hmem hmem' hlt a ha b hb haends hbends
        -- the kinds along the two routes tell the entries apart
        rw [← Inbound.kinds_of_endsAt (hlast a (hes ha)) hmem haends,
          ← Inbound.kinds_of_endsAt (hlast b (hes hb)) hmem' hbends] at hlt
        have hgt : compare (b.kinds path.pieces) (a.kinds path.pieces) = .gt := by
          rw [Std.OrientedOrd.eq_swap, hlt]
          rfl
        rw [Inbound.compareFor, horder a (hes ha), horder b (hes hb), Std.ReflOrd.compare_self, hgt]
        exact Bool.noConfusion

theorem nodup_eraseDups {α : Type u} [BEq α] [LawfulBEq α] (l : List α) : l.eraseDups.Nodup := by
  induction hn : l.length using Nat.strongRecOn generalizing l with
  | ind n ih =>
    cases l with
    | nil => exact List.nodup_nil
    | cons a l =>
      rw [List.eraseDups_cons, List.nodup_cons]
      have hlt : (l.filter fun b => !b == a).length < n := by
        rw [← hn, List.length_cons]
        exact Nat.lt_succ_of_le (List.length_filter_le _ l)
      refine ⟨?_, ih _ hlt _ rfl⟩
      rw [List.mem_eraseDups, List.mem_filter]
      simp

/-- The orders of the tries ascend. -/
theorem orders_ascending (es : List (Inbound τ)) :
    ((es.map (·.order)).eraseDups.mergeSort fun a b => decide (a ≤ b)).Pairwise (· < ·) := by
  have hle : ((es.map (·.order)).eraseDups.mergeSort fun a b => decide (a ≤ b)).Pairwise
      fun a b => decide (a ≤ b) := by
    refine List.pairwise_mergeSort (fun a b c => ?_) (fun a b => ?_) _
    · simpa using Int.le_trans
    · simpa using Int.le_total a b
  have hne : ((es.map (·.order)).eraseDups.mergeSort fun a b => decide (a ≤ b)).Nodup :=
    (List.mergeSort_perm _ _).nodup_iff.2 (nodup_eraseDups _)
  refine hle.imp₂ (fun a b hab hne => ?_) hne
  exact Int.lt_iff_le_and_ne.2 ⟨of_decide_eq_true hab, hne⟩

/-- The same for the tries of entries of several orders. -/
theorem filter_triesOf (hlast : ∀ e ∈ es, CatchAllLast e.pattern.template.segments)
    (hfit : ∀ e ∈ es, p e → (e.pattern.fit? path).isSome) :
    (triesOf es).flatMap (fun t => (t.candidates path).filter p) =
      (es.filter p).mergeSort fun a b => (a.compareFor path.pieces b).isLE := by
  rw [triesOf, List.flatMap_map]
  calc
    _ = ((es.map (·.order)).eraseDups.mergeSort fun a b => decide (a ≤ b)).flatMap fun order =>
        ((es.filter p).filter (·.order == order)).mergeSort
          fun a b => (a.compareFor path.pieces b).isLE := by
      refine List.flatMap_congr fun order _ => ?_
      rw [Trie.filter_candidates, List.filter_comm]
      · intro e he
        exact beq_iff_eq.1 (List.mem_filter.1 he).2
      · exact fun e he => hlast e (List.mem_filter.1 he).1
      · exact fun e he => hfit e (List.mem_filter.1 he).1
    _ = _ := by
      refine (Ranking.of_compare (Inbound.compareFor path.pieces)).flatMap_buckets
        (fun order e => e.order == order) (fun e he => ?_) ?_
      · refine ⟨e.order, ?_, beq_self_eq_true _⟩
        rw [List.mem_mergeSort, List.mem_eraseDups]
        exact List.mem_map_of_mem (List.mem_filter.1 he).1
      · refine (orders_ascending es).imp fun {order order'} hlt a _ b _ ha hb => ?_
        have hgt : compare b.order a.order = .gt := by
          rw [beq_iff_eq.1 ha, beq_iff_eq.1 hb, Int.compare_eq_gt]
          exact hlt
        rw [Inbound.compareFor, hgt]
        exact Bool.noConfusion

end

/-! ### Runs -/

/-- The calls that come of entries that are visited in order. The target of an entry that accepts
the request is called; if it declines, the entries behind it find the request as it has left it,
and the data as they were before the call. -/
def callsAlong {τ : Type} (respond : τ → RouteContext τ → Reply τ) (path : UrlPath) :
    RouteContext τ → List (Inbound τ) → List (τ × RouteData τ)
  | _, [] => []
  | context, e :: rest =>
    if e.accepts path context then
      let reply := respond e.target { context with data := e.entered path context.data }
      (e.target, e.entered path context.data) ::
        if reply.declines then
          callsAlong respond path { reply.context with data := context.data } rest
        else []
    else callsAlong respond path context rest

/-- The elements of a list up to the first one that passes a test, which is included. -/
def upTo {α : Type u} (p : α → Bool) : List α → List α
  | [] => []
  | a :: l => a :: if p a then [] else upTo p l

/-- Targets that decline leave the request as it is. A target is given the whole context and might
put another request in it; with the route data and the mark of the context it may do what it
likes. -/
def KeepsRequest {τ : Type} (respond : τ → RouteContext τ → Reply τ) : Prop :=
  ∀ target context, (respond target context).declines →
    (respond target context).context.request = context.request

/-- Whether the router is done after the call of the target of an entry: the target handles the
request, fails, hangs or panics. -/
def Inbound.stops {τ : Type} (respond : τ → RouteContext τ → Reply τ) (path : UrlPath)
    (context : RouteContext τ) (e : Inbound τ) : Bool :=
  !(respond e.target { context with data := e.entered path context.data }).declines

section

variable {τ : Type} {respond : τ → RouteContext τ → Reply τ} {path : UrlPath}
  {context : RouteContext τ}

/-- Entries that accept no request may be left out. -/
theorem callsAlong_filter {p : Inbound τ → Bool} {es : List (Inbound τ)}
    (h : ∀ e ∈ es, ∀ context : RouteContext τ, e.accepts path context → p e) :
    callsAlong respond path context (es.filter p) = callsAlong respond path context es := by
  induction es generalizing context with
  | nil => rfl
  | cons e es ih =>
    rw [List.forall_mem_cons] at h
    cases hp : p e with
    | true =>
      rw [List.filter_cons_of_pos hp]
      simp only [callsAlong, ih h.2]
    | false =>
      have hrejects : ¬ e.accepts path context := fun haccepts =>
        Bool.false_ne_true (hp.symm.trans (h.1 context haccepts))
      rw [List.filter_cons_of_neg (Bool.eq_false_iff.1 hp), callsAlong, if_neg hrejects, ih h.2]

/-- After a target that keeps the request has declined, the next entry finds the context as this one
has found it. -/
theorem context_of_declines (keeps : KeepsRequest respond) (hopen : context.isHandled = false)
    {target : τ} {data : RouteData τ} (declines : (respond target { context with data }).declines) :
    { (respond target { context with data }).context with data := context.data } = context := by
  have hrequest := keeps _ _ declines
  simp only [Reply.declines, Bool.and_eq_true, Bool.not_eq_true'] at declines
  dsimp only
  rw [hrequest, declines.2, ← hopen]

/-- If targets keep the request, the calls are those of the entries that accept it, up to the first
one whose target does not decline. -/
theorem callsAlong_of_keeps (keeps : KeepsRequest respond) (hopen : context.isHandled = false)
    (es : List (Inbound τ)) :
    callsAlong respond path context es =
      (upTo (Inbound.stops respond path context) (es.filter (·.accepts path context))).map
        fun e => (e.target, e.entered path context.data) := by
  induction es with
  | nil => rfl
  | cons e es ih =>
    rw [callsAlong]
    split
    next haccepts =>
      rw [List.filter_cons, if_pos haccepts, upTo, List.map_cons, Inbound.stops]
      dsimp only
      split
      next declines =>
        rw [context_of_declines keeps hopen declines, ih, declines]
        rfl
      next stops =>
        rw [Bool.eq_false_iff.2 stops]
        rfl
    next hrejects => rw [List.filter_cons, if_neg hrejects, ih]

end

namespace Router

variable {τ ν : Type} {respond : τ → RouteContext τ → Reply τ} {path : UrlPath}
  {context : RouteContext τ} {e : Inbound τ}

/-- A target that declines leaves its context with the data from before the call. -/
theorem context_attempt (declines : (attempt respond path context e).declines) :
    (attempt respond path context e).context =
      { (respond e.target { context with data := e.entered path context.data }).context with
        data := context.data } := by
  rw [declines_attempt, Reply.declines, Bool.and_eq_true, Bool.not_eq_true'] at declines
  simp [attempt, dispatch, declines.2]

/-- A run makes the calls along its candidates. -/
theorem Attempts.calls_eq {candidates : List (Int × Inbound τ)} {reply : Reply τ}
    (h : Attempts (muted respond) path context candidates reply) :
    callsIn reply.trace = callsAlong respond path context (candidates.map Prod.snd) := by
  induction h with
  | exhausted quiet => exact quiet
  | passed rejects quiet goesOn ih =>
    rw [callsIn_after, quiet, ih, List.map_cons, callsAlong, if_neg (Bool.eq_false_iff.1 rejects)]
    rfl
  | @declined context order e rest later accepts declines goesOn ih =>
    have hdeclines : (respond e.target { context with
        data := e.entered path context.data }).declines := declines_attempt ▸ declines
    rw [context_attempt declines] at ih
    rw [callsIn_after, callsIn_attempt_muted, ih, List.map_cons, callsAlong, if_pos accepts]
    dsimp only
    rw [if_pos hdeclines]
    rfl
  | @ended context order e rest told accepts ends quiet =>
    have hends : ¬ (respond e.target { context with
        data := e.entered path context.data }).declines := by
      rw [← Bool.not_eq_true, declines_attempt] at ends
      exact ends
    rw [callsIn_append, callsIn_attempt_muted, quiet, List.map_cons, callsAlong, if_pos accepts]
    dsimp only
    rw [if_neg hends]
    rfl

theorem Attempts.request_eq {candidates : List (Int × Inbound τ)} {reply : Reply τ}
    (h : Attempts respond path context candidates reply) (keeps : KeepsRequest respond)
    (hdeclines : reply.declines) : reply.context.request = context.request := by
  induction h with
  | exhausted => rfl
  | passed rejects quiet goesOn ih => exact ih hdeclines
  | declined accepts declines goesOn ih =>
    refine (ih hdeclines).trans ?_
    rw [context_attempt declines]
    exact keeps _ _ (declines_attempt ▸ declines)
  | ended accepts ends quiet => exact absurd hdeclines (Bool.eq_false_iff.1 ends)

/-- A router whose targets keep the request when they decline does so as well, and so it may be a
target itself. -/
theorem request_route (r : Router τ ν) (keeps : KeepsRequest respond)
    (hdeclines : (r.route respond context).declines) :
    (r.route respond context).context.request = context.request :=
  (attempts_tryCandidates _).request_eq keeps hdeclines

end Router

/-! ### Routers -/

/-- The entries that a path fits, in the order in which they are tried; entries that the comparison
does not tell apart stay in the order in which they were added. -/
def ranked {τ : Type} (es : List (Inbound τ)) (path : UrlPath) : List (Inbound τ) :=
  (es.filter fun e => (e.pattern.fit? path).isSome).mergeSort fun a b =>
    (a.compareFor path.pieces b).isLE

/-- The entries that accept a request, in the order in which they are tried. -/
def scan {τ : Type} (es : List (Inbound τ)) (context : RouteContext τ) : List (Inbound τ) :=
  (es.filter (·.accepts (.ofString context.request.path) context)).mergeSort fun a b =>
    (a.compareFor (UrlPath.ofString context.request.path).pieces b).isLE

/-- The scan keeps those of the entries that the path fits which accept the request. -/
theorem filter_ranked {τ : Type} (es : List (Inbound τ)) (context : RouteContext τ) :
    (ranked es (.ofString context.request.path)).filter
      (·.accepts (.ofString context.request.path) context) = scan es context := by
  have hfit : ∀ e ∈ es, (e.accepts (.ofString context.request.path) context &&
      (e.pattern.fit? (.ofString context.request.path)).isSome) =
        e.accepts (.ofString context.request.path) context := by
    intro e _
    rw [Inbound.accepts, Bool.and_right_comm, Bool.and_self]
  rw [ranked, (Ranking.of_compare (Inbound.compareFor _)).filter_mergeSort, List.filter_filter,
    List.filter_congr hfit, scan]

namespace Draft

variable {τ ν : Type} {d : Draft τ ν} {version : Int} {r : Router τ ν}

/-- Those candidates of a router that a path fits are the entries that it fits, ranked. -/
theorem filter_candidates (hbuild : d.build version = .ok r)
    (hparsed : ∀ e ∈ d.inbound, ∃ text, Template.parse text = .ok e.pattern.template)
    (path : UrlPath) :
    ((r.candidates path).map Prod.snd).filter (fun e => (e.pattern.fit? path).isSome) =
      ranked d.inbound path := by
  have htries : r.tries = triesOf d.inbound := by
    unfold build at hbuild
    split at hbuild
    · cases hbuild
    · obtain rfl := Except.ok.inj hbuild
      rfl
  rw [Router.candidates, htries, List.map_flatMap, List.filter_flatMap]
  simp only [List.map_map, Function.comp_def, List.map_id']
  refine filter_triesOf (fun e he => ?_) fun e he hfit => hfit
  obtain ⟨text, htext⟩ := hparsed e he
  exact (parameters_of_parse htext).catchAll

/-- **Routing is a scan**: a router built from entries with parsed templates makes the calls along
the entries that the path fits, sorted by the comparison, whatever its targets do. If targets that
decline keep the request, it calls the targets of the entries that accept the request, sorted by the
comparison, up to the first target that handles the request, fails, hangs or panics. -/
theorem route_scan (hbuild : d.build version = .ok r)
    (hparsed : ∀ e ∈ d.inbound, ∃ text, Template.parse text = .ok e.pattern.template)
    (respond : τ → RouteContext τ → Reply τ) (context : RouteContext τ) :
    r.calls respond context =
        callsAlong respond (.ofString context.request.path) context
          (ranked d.inbound (.ofString context.request.path)) ∧
      (KeepsRequest respond → context.isHandled = false →
        r.calls respond context =
          (upTo (Inbound.stops respond (.ofString context.request.path) context)
            (scan d.inbound context)).map
              fun e => (e.target, e.entered (.ofString context.request.path) context.data)) := by
  have hcalls : r.calls respond context =
      callsAlong respond (.ofString context.request.path) context
        (ranked d.inbound (.ofString context.request.path)) := by
    rw [← filter_candidates hbuild hparsed, callsAlong_filter]
    · exact (Router.attempts_tryCandidates _).calls_eq
    · intro e _ context' haccepts
      rw [Inbound.accepts, Bool.and_eq_true] at haccepts
      exact haccepts.1
  refine ⟨hcalls, fun keeps hopen => ?_⟩
  rw [hcalls, callsAlong_of_keeps keeps hopen, filter_ranked]

/-- A condition from outside: the value is an even number. -/
def isEven : Constraint := .custom "even" fun site key =>
  (site.values.get? key).any fun v => (readInt64? v).any (· % 2 == 0)

/-- An entry of `{id}`. -/
def numberEntry (target : String) (constraints : ConstraintMap) : Inbound String where
  order := 0
  name? := none
  pattern := .ofTemplate
    { text := "\x7bid\x7d", segments := [[.parameter { name := "id" }]] } .empty
  constraints
  target

/-- Two entries for one template, the first of which is for even numbers only. -/
def numberDraft : Draft String Unit where
  next := ()
  inbound := [numberEntry "even" (.ofList [("id", isEven)]), numberEntry "any" .empty]

/-- Of two entries for one template whose targets decline, the one added first is called first, and
it is passed over where its constraint is not content with the value that is read off the path. -/
theorem route_scan_sample :
    ∃ r : Router String Unit, numberDraft.build 0 = .ok r ∧
      (r.calls (fun _ context => ⟨context, .done, []⟩)
        ⟨⟨"GET", "/4"⟩, ⟨.empty, []⟩, false⟩).map Prod.fst = ["even", "any"] ∧
      (r.calls (fun _ context => ⟨context, .done, []⟩)
        ⟨⟨"GET", "/5"⟩, ⟨.empty, []⟩, false⟩).map Prod.fst = ["any"] := by
  have hparsed : ∀ e ∈ numberDraft.inbound,
      ∃ text, Template.parse text = .ok e.pattern.template := by
    have hparse : Template.parse "\x7bid\x7d" =
        .ok { text := "\x7bid\x7d", segments := [[.parameter { name := "id" }]] } := by
      decide +kernel
    rintro e (_ | ⟨_, _ | ⟨_, ⟨⟩⟩⟩) <;> exact ⟨_, hparse⟩
  have keeps : KeepsRequest fun (_ : String) context => ⟨context, .done, []⟩ := fun _ _ _ => rfl
  refine ⟨_, rfl, ?_, ?_⟩
  · rw [(route_scan (d := numberDraft) rfl hparsed _ _).2 keeps rfl, scan,
      List.filter_eq_self.2 (by decide +kernel), List.mergeSort_of_pairwise (by decide +kernel)]
    decide +kernel
  · have hfilter : numberDraft.inbound.filter (·.accepts (.ofString "/5")
        ⟨⟨"GET", "/5"⟩, ⟨.empty, []⟩, false⟩) = [numberEntry "any" .empty] := by
      rw [numberDraft, List.filter_cons_of_neg (by decide +kernel),
        List.filter_cons_of_pos (by decide +kernel), List.filter_nil]
    rw [(route_scan (d := numberDraft) rfl hparsed _ _).2 keeps rfl, scan, hfilter,
      List.mergeSort_singleton]
    decide +kernel

end Draft

end UrlRouting

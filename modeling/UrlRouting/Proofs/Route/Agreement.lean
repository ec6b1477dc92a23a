import UrlRouting.Proofs.Route.Constraints
import UrlRouting.Proofs.RoutePattern.RoundTrip

/-!
# Both entries of a declaration agree

The constraints of a declaration are checked twice: on the values from which a link is written, and
on the values that a request for the link is read as. The stock of constraints looks at nothing but
the value of its name (`isPlain_of_resolve`), so for a declaration without methods the second check
has the outcome of the first one if the values are the same, and they are
(`Declaration.link_routes_back`).
-/

namespace UrlRouting

open Text

/-! ### Constraints that look at values only -/

namespace Constraint

mutual

/-- Whether a constraint looks at the value of its name only, not at the request and its
direction. Nothing is known of one from outside. -/
def isPlain : Constraint → Bool
  | .all cs => arePlain cs
  | .optional c => isPlain c
  | .method _ => false
  | .custom _ _ => false
  | _ => true

/-- Whether some constraints look at the value of their name only. -/
def arePlain : List Constraint → Bool
  | [] => true
  | c :: cs => isPlain c && arePlain cs

end

mutual

/-- A constraint that looks at the value of its name only is content in two places where the values
are the same. -/
theorem admits_of_isPlain {site site' : Site} {key : String}
    (h : site.values.get? key = site'.values.get? key) :
    (c : Constraint) → c.isPlain → admits site key c = admits site' key c
  | .all cs, hcs => by
    rw [isPlain] at hcs
    rw [admits, admits]
    exact admitsAll_of_arePlain h cs hcs
  | .optional c, hc => by
    rw [isPlain] at hc
    rw [admits, admits, Bindings.nonEmpty?, Bindings.nonEmpty?, h, admits_of_isPlain h c hc]
  | .method _, hmethod => by
    rw [isPlain] at hmethod
    cases hmethod
  | .custom _ _, hcustom => by
    rw [isPlain] at hcustom
    cases hcustom
  | .int, _ | .long, _ | .bool, _ | .alpha, _ | .required, _ | .minLength _, _ | .maxLength _, _
  | .length _ _, _ | .atLeast _, _ | .atMost _, _ | .between _ _, _ | .regex _, _ => by
    simp only [admits, h]

theorem admitsAll_of_arePlain {site site' : Site} {key : String}
    (h : site.values.get? key = site'.values.get? key) :
    (cs : List Constraint) → arePlain cs → admitsAll site key cs = admitsAll site' key cs
  | [], _ => rfl
  | c :: cs, hcs => by
    rw [arePlain, Bool.and_eq_true] at hcs
    rw [admitsAll, admitsAll, admits_of_isPlain h c hcs.1, admitsAll_of_arePlain h cs hcs.2]

end

end Constraint

/-! ### The stock -/

namespace ConstraintMaker

/-- A maker makes only constraints that look at the value of their name only. -/
def IsPlain (maker : ConstraintMaker) : Prop :=
  ∀ argument? c, maker argument? = .ok c → c.isPlain

/-- A constraint that is made whatever the argument is. -/
theorem isPlain_const {c : Constraint} (h : c.isPlain) : IsPlain fun _ => .ok c := by
  intro argument? c' hmade
  obtain rfl := Except.ok.inj hmade
  exact h

/-- A constraint that is made of what is read from the argument. -/
theorem isPlain_map {α : Type} (read : Option String → Except BuildError α) {make : α → Constraint}
    (h : ∀ a, (make a).isPlain) : IsPlain fun argument? => (read argument?).map make := by
  intro argument? c hmade
  dsimp only at hmade
  cases hread : read argument? with
  | error e =>
    rw [hread] at hmade
    cases hmade
  | ok a =>
    rw [hread] at hmade
    obtain rfl := Except.ok.inj hmade
    exact h a

theorem isPlain_makeLength : IsPlain makeLength := by
  intro argument? c hmade
  unfold makeLength at hmade
  split at hmade
  · obtain rfl := Except.ok.inj hmade
    rfl
  · split at hmade
    · obtain rfl := Except.ok.inj hmade
      rfl
    · cases hmade

theorem isPlain_makeRegex : IsPlain makeRegex := by
  intro argument? c hmade
  unfold makeRegex at hmade
  split at hmade
  · cases hmade
  · split at hmade
    · obtain rfl := Except.ok.inj hmade
      rfl
    · cases hmade

/-- Every maker of the stock makes such constraints. -/
theorem isPlain_of_mem_stockMakers : ∀ entry ∈ stockMakers, IsPlain entry.2 := by
  simp only [stockMakers, List.forall_mem_cons]
  refine ⟨isPlain_const rfl, isPlain_const rfl, isPlain_const rfl, isPlain_const rfl,
    isPlain_const rfl, isPlain_map _ fun _ => rfl, isPlain_map _ fun _ => rfl, isPlain_makeLength,
    isPlain_map _ fun _ => rfl, isPlain_map _ fun _ => rfl, isPlain_map _ fun _ => rfl,
    isPlain_makeRegex, ?_⟩
  exact fun _ hmem => absurd hmem List.not_mem_nil

end ConstraintMaker

namespace ConstraintCatalog

/-- All makers of a catalog make constraints that look at the value of their name only. -/
def IsPlain (catalog : ConstraintCatalog) : Prop :=
  ∀ name maker, catalog.makers.get? name = some maker → ConstraintMaker.IsPlain maker

theorem IsPlain.register {catalog : ConstraintCatalog} (h : catalog.IsPlain) (name : String)
    {maker : ConstraintMaker} (hmaker : ConstraintMaker.IsPlain maker) :
    (catalog.register name maker).IsPlain := by
  intro name' maker' hget
  rw [ConstraintCatalog.register, TextMap.get?_insert] at hget
  split at hget
  · obtain rfl := Option.some.inj hget
    exact hmaker
  · exact h name' maker' hget

theorem isPlain_stock : stock.IsPlain := by
  have hfold : ∀ (entries : List (String × ConstraintMaker)) (catalog : ConstraintCatalog),
      catalog.IsPlain → (∀ entry ∈ entries, ConstraintMaker.IsPlain entry.2) →
      (entries.foldl (fun catalog entry => catalog.register entry.1 entry.2) catalog).IsPlain := by
    intro entries
    induction entries with
    | nil => exact fun _ hcatalog _ => hcatalog
    | cons entry entries ih =>
      intro catalog hcatalog hentries
      rw [List.forall_mem_cons] at hentries
      exact ih _ (hcatalog.register entry.1 hentries.1) hentries.2
  have hempty : empty.IsPlain := by
    intro name maker hget
    cases hget
  exact hfold stockMakers empty hempty ConstraintMaker.isPlain_of_mem_stockMakers

/-- A constraint of the stock looks at the value of its name only. -/
theorem isPlain_of_resolve {written : InlineConstraint} {c : Constraint}
    (h : stock.resolve written = .ok c) : c.isPlain := by
  unfold resolve at h
  split at h
  next maker hmaker => exact isPlain_stock _ maker hmaker _ c h
  next => cases h

/-- Where the values of a name are the same, so is what a constraint of the stock that is written
for it accepts. -/
theorem accepts_stock_congr {site site' : Constraint.Site} {name : String}
    (h : site.values.get? name = site'.values.get? name) (isOptional : Bool)
    (written : InlineConstraint) :
    stock.accepts site name isOptional written = stock.accepts site' name isOptional written := by
  have hfold : site.values.get? (fold name) = site'.values.get? (fold name) := by
    rw [Bindings.get?_congr _ (fold_fold name), h, Bindings.get?_congr _ (fold_fold name)]
  rw [accepts, accepts, Bindings.nonEmpty?, Bindings.nonEmpty?, h]
  cases hmade : stock.resolve written with
  | ok made =>
    dsimp only
    rw [Constraint.admits_of_isPlain hfold made (isPlain_of_resolve hmade)]
  | error e => rfl

end ConstraintCatalog

/-! ### Values of a link and of a request -/

namespace RoutePattern

variable {r : RoutePattern} {accepted : Bindings} {front back : List Segment}
  {kept : List WrittenSegment}

/-- Whether a pattern has a place for a name: a parameter or a default. -/
def knows (r : RoutePattern) (name : String) : Bool :=
  (r.template.parameter? name).isSome || r.defaults.has name

theorem knows_iff {name : String} :
    r.knows name ↔ r.IsParameter name ∨ ∃ given, r.defaults.get? name = some given := by
  rw [knows, Bool.or_eq_true, isSome_parameter?_iff, Bindings.has_eq, Option.isSome_iff_exists]

/-- A name that the pattern knows is chosen only if it is written, unless a parameter has a
default. -/
theorem Layout.get?_eq_none_of_not_written (h : r.Layout accepted front back kept)
    (hsole : ∀ s ∈ r.template.segments, s.length = 1) (hchosen : r.Chosen accepted)
    (hdefaults : ∀ p ∈ r.template.parameters, r.defaults.get? p.name = none) {name : String}
    (hknows : r.knows name)
    (hwritten : ¬ ∃ b ∈ r.writtenBindings accepted front, fold b.name = fold name) :
    accepted.get? name = none := by
  rw [Option.eq_none_iff_forall_not_mem]
  intro value hvalue
  by_cases hname : r.IsParameter name
  · rcases h.written_or_default hsole hchosen hname hvalue with hw | ⟨given, hgiven, -⟩
    · exact hwritten hw
    · obtain ⟨p, hp, hpname⟩ := hname
      rw [← Bindings.get?_congr _ hpname, hdefaults p hp] at hgiven
      cases hgiven
  · obtain ⟨given, hgiven⟩ := (knows_iff.1 hknows).resolve_left hname
    have hnone := (hchosen.others hvalue).resolve_left hname
    rw [hgiven] at hnone
    cases hnone

/-- If no parameter has a default, the values that the path of a link gives are, among the names
that the pattern knows, those that were chosen for the link. -/
theorem Layout.get?_recovered (h : r.Layout accepted front back kept) (hsound : r.template.Sound)
    (hsole : ∀ s ∈ r.template.segments, s.length = 1) (hchosen : r.Chosen accepted)
    (hdefaults : ∀ p ∈ r.template.parameters, r.defaults.get? p.name = none) (name : String) :
    (r.recovered accepted front).get? name =
      if r.knows name then (accepted.withDefaults r.defaults).get? name else none := by
  by_cases hwritten : ∃ b ∈ r.writtenBindings accepted front, fold b.name = fold name
  · obtain ⟨b, hb, hname⟩ := hwritten
    obtain ⟨p, hp, hpname, hvalue⟩ := mem_writtenBindings.1 hb
    have hsegment : [.parameter p] ∈ r.template.segments := by
      rw [h.segments]
      exact List.mem_append_left _ hp
    have hparameter : r.IsParameter name :=
      ⟨p, Segment.mem_flatMap_parameters hsegment, by rw [hpname, hname]⟩
    rw [hpname] at hvalue
    rw [if_pos (knows_iff.2 (Or.inl hparameter)), ← Bindings.get?_congr _ hname,
      ← Bindings.get?_congr _ hname, h.recovered_of_mem hsound hb,
      hchosen.combined_of_valueOf? hvalue]
  · rw [recovered_of_notMem fun b hb hname => hwritten ⟨b, hb, hname⟩]
    by_cases hknows : r.knows name
    · have hnone := h.get?_eq_none_of_not_written hsole hchosen hdefaults hknows hwritten
      rw [if_pos hknows, Bindings.get?_withDefaults, hnone, Option.none_or]
    · rw [if_neg hknows, Option.eq_none_iff_forall_not_mem]
      exact fun given hgiven => hknows (knows_iff.2 (Or.inr ⟨given, hgiven⟩))

end RoutePattern

/-! ### Declarations -/

namespace Declaration

variable {d : Declaration}

/-- What a compiled declaration consists of: both entries have one pattern, that of its template,
and one map of constraints. -/
theorem parts_of_compile {τ : Type} {target : τ} {catalog : ConstraintCatalog} {inbound : Inbound τ}
    {outbound : Outbound} (h : d.compile catalog target = .ok (inbound, outbound)) :
    Template.parse d.template = .ok inbound.pattern.template ∧
      d.compileConstraints catalog inbound.pattern.template = .ok inbound.constraints ∧
      outbound.pattern = inbound.pattern ∧ outbound.constraints = inbound.constraints := by
  unfold compile at h
  split at h
  · cases h
  next t hparse =>
    split at h
    · cases h
    next map hmap =>
      obtain ⟨rfl, rfl⟩ := Prod.mk.inj (Except.ok.inj h)
      exact ⟨hparse, hmap, rfl, rfl⟩

/-- Without methods, what a declaration restricts is content in two places if the values of the
names for which constraints are written are the same. -/
theorem Passes.congr {t : Template} {site site' : Constraint.Site}
    (h : d.Passes .stock t site) (hmethods : d.methods = [])
    (hparameters : ∀ p ∈ t.parameters, site.values.get? p.name = site'.values.get? p.name)
    (hconstraints : ∀ a ∈ d.constraints.items, site.values.get? a.1 = site'.values.get? a.1) :
    d.Passes .stock t site' where
  parameters p hp hcounts c hc := by
    rw [← ConstraintCatalog.accepts_stock_congr (hparameters p hp)]
    exact h.parameters p hp hcounts c hc
  constraints a ha hcounts := by
    rw [← ConstraintCatalog.accepts_stock_congr (hconstraints a ha)]
    exact h.constraints a ha hcounts
  methods hsome := absurd hmethods hsome

/-- **Both entries of a declaration agree**: let a declaration without methods have a template of
single parameters and literals, no catch-all, no default for a parameter, and constraints for
parameters and defaults only. If its link entry writes a link, since its constraints are content
with the values that are chosen, then the path of the link fits its request entry, with the chosen
values of the names that the pattern knows, and its constraints are content with them for every
request. -/
theorem link_routes_back {τ : Type} {target : τ} {inbound : Inbound τ} {outbound : Outbound}
    (h : d.compile .stock target = .ok (inbound, outbound))
    (hsole : ∀ s ∈ inbound.pattern.template.segments, s.length = 1)
    (hcatchAll : ∀ p ∈ inbound.pattern.template.parameters, p.isCatchAll = false)
    (hdefaults : ∀ p ∈ inbound.pattern.template.parameters,
      inbound.pattern.defaults.get? p.name = none)
    (hmethods : d.methods = []) (hknown : ∀ a ∈ d.constraints.items, inbound.pattern.knows a.1)
    {ambient asked : Bindings} {sel : Selection}
    (hselect : outbound.pattern.select? ambient asked = some sel) {request : Request}
    (hpass : firstRejection? outbound.constraints ⟨request, sel.combined, .generation⟩ = none)
    {url : String} (hwrite : outbound.pattern.write? sel.accepted = some url) :
    ∃ vs, inbound.pattern.fit? (.ofString (linkPath url)) = some vs ∧
      (∀ name, vs.get? name =
        if inbound.pattern.knows name then sel.combined.get? name else none) ∧
      ∀ incoming, firstRejection? inbound.constraints ⟨incoming, vs, .incoming⟩ = none := by
  obtain ⟨hparse, hcompile, hpattern, hconstraints⟩ := parts_of_compile h
  rw [hpattern] at hselect hwrite
  rw [hconstraints] at hpass
  have hsound := parameters_of_parse hparse
  obtain ⟨hchosen, hcombined⟩ := RoutePattern.chosen_of_select? hselect
  obtain ⟨front, back, kept, hlayout, hurl⟩ := RoutePattern.layout_of_write? hsole hwrite
  have hurl : url = withQuery (RoutePattern.pathOf kept)
    (inbound.pattern.extras sel.accepted) := hurl
  have hpieces : inbound.pattern.PiecesNonEmpty sel.accepted inbound.pattern.template.segments := by
    intro p hp hcatch
    rw [hcatchAll p (Segment.mem_flatMap_parameters hp)] at hcatch
    cases hcatch
  have hvalues := hlayout.get?_recovered hsound hsole hchosen hdefaults
  rw [← hcombined] at hvalues
  refine ⟨inbound.pattern.recovered sel.accepted front, ?_, hvalues, fun incoming => ?_⟩
  · rw [hurl, linkPath_withQuery hlayout.notMem_pathOf]
    exact hlayout.fit? hsound.catchAll hpieces
  · have hpasses := (firstRejection?_compileConstraints hcompile hsound.names).1 hpass
    apply (firstRejection?_compileConstraints hcompile hsound.names).2
    apply hpasses.congr hmethods
    · intro p hp
      rw [hvalues, if_pos (RoutePattern.knows_iff.2 (Or.inl ⟨p, hp, rfl⟩))]
    · intro a ha
      rw [hvalues, if_pos (hknown a ha)]

/-- A declaration with a default beside its parameters, and constraints for both. -/
def linkedDeclaration : Declaration where
  template := "v/\x7bid:int\x7d/\x7bk:alpha?\x7d"
  defaults := .ofList [("area", "main")]
  constraints := .ofList [("AREA", "alpha"), ("Id", "min(3)")]

/-- The link has the value of the parameter that is given, and a query that the request entry does
not see. -/
theorem link_routes_back_sample :
    ∃ inbound outbound sel vs, linkedDeclaration.compile .stock () = .ok (inbound, outbound) ∧
      outbound.pattern.select? .empty (.ofPairs [("id", "5"), ("page", "2")]) = some sel ∧
      outbound.pattern.write? sel.accepted = some "/v/5?page=2" ∧
      inbound.pattern.fit? (.ofString "/v/5") = some vs ∧
      vs.get? "ID" = some "5" ∧ vs.get? "area" = some "main" ∧ vs.get? "page" = none ∧
      ∀ incoming, firstRejection? inbound.constraints ⟨incoming, vs, .incoming⟩ = none := by
  have hcompile : (match linkedDeclaration.compile .stock () with
      | .ok (inbound, outbound) => decide (
          (∀ s ∈ inbound.pattern.template.segments, s.length = 1) ∧
          (∀ p ∈ inbound.pattern.template.parameters, p.isCatchAll = false) ∧
          (∀ p ∈ inbound.pattern.template.parameters,
            inbound.pattern.defaults.get? p.name = none) ∧
          (∀ a ∈ linkedDeclaration.constraints.items, inbound.pattern.knows a.1) ∧
          (outbound.pattern.select? .empty (.ofPairs [("id", "5"), ("page", "2")])).map (fun sel =>
            ((firstRejection? outbound.constraints
                ⟨{ method := "GET", path := "/" }, sel.combined, .generation⟩).isNone,
              outbound.pattern.write? sel.accepted,
              ["ID", "area", "page"].map fun name =>
                if inbound.pattern.knows name then sel.combined.get? name else none)) =
            some (true, some "/v/5?page=2", [some "5", some "main", none]))
      | .error _ => false) = true := by
    decide +kernel
  split at hcompile
  next inbound outbound h =>
    obtain ⟨hsole, hcatchAll, hdefaults, hknown, hlink⟩ := of_decide_eq_true hcompile
    obtain ⟨sel, hselect, hresults⟩ := Option.map_eq_some_iff.1 hlink
    simp only [Prod.mk.injEq, Option.isNone_iff_eq_none, List.map_cons, List.map_nil,
      List.cons.injEq] at hresults
    obtain ⟨hpass, hwrite, hid, harea, hpage, -⟩ := hresults
    obtain ⟨vs, hfit, hvalues, hincoming⟩ :=
      link_routes_back h hsole hcatchAll hdefaults rfl hknown hselect hpass hwrite
    have hpath : linkPath "/v/5?page=2" = "/v/5" := by decide +kernel
    rw [hpath] at hfit
    exact ⟨inbound, outbound, sel, vs, h, hselect, hwrite, hfit, by rw [hvalues, hid],
      by rw [hvalues, harea], by rw [hvalues, hpage], hincoming⟩
  · cases hcompile

end Declaration

end UrlRouting

import UrlRouting.Proofs.Bindings
import UrlRouting.Proofs.Router.Isolation
import UrlRouting.Proofs.Template.Parameters
import UrlRouting.Proofs.Text.Folding
import UrlRouting.Route.Declaration

/-!
# The constraints of a compiled declaration

The constraints of a route are written in its template, beside it and as methods. Compiling gathers
them in one map, in which all that is written for a name has to share one place: several constraints
of a parameter are combined, and so are those that are written for it in the template and beside it.
Both entries of a route are content exactly if everything that was written is
(`Declaration.firstRejection?_compile`), with one exception: the methods take the place of what is
written for the name `httpmethod`.
-/

namespace UrlRouting

open Text

/-! ### Single constraints -/

namespace Constraint

variable {site : Site} {key : String}

theorem admitsAll_eq (cs : List Constraint) : admitsAll site key cs = cs.all (admits site key) := by
  induction cs with
  | nil => rfl
  | cons c cs ih => rw [admitsAll, List.all_cons, ih]

end Constraint

/-! ### Maps of constraints -/

/-- The constraints of a map under the names that count are content. -/
def ConstraintMap.Content (map : ConstraintMap) (site : Constraint.Site) (counts : String → Prop) :
    Prop :=
  ∀ key c, map.get? key = some c → counts key → c.admits site key

namespace ConstraintMap

variable {map : ConstraintMap} {site : Constraint.Site} {counts : String → Prop} {key : String}
  {c : Constraint}

/-- No constraint of a map is rejected if all are content. -/
theorem firstRejection?_eq_none_iff :
    firstRejection? map site = none ↔ map.Content site fun _ => True := by
  rw [firstRejection?_eq_none, List.all_eq_true]
  constructor
  · intro h key c hget _
    obtain ⟨⟨key', c'⟩, hfind, hc⟩ := Option.map_eq_some_iff.1 hget
    obtain ⟨hmem, hkey⟩ := SortedBy.mem_of_find? hfind
    have hadmits := h (key', c') hmem
    obtain rfl : c' = c := hc
    obtain rfl : key' = key := hkey
    exact hadmits
  · rintro h ⟨key, c⟩ hmem
    have hfind := SortedBy.find?_of_mem hmem
    exact h key c (by rw [TextMap.get?, hfind]; rfl) trivial

/-- A constraint that is put in place of another one counts, and the other one does not. -/
theorem content_insert : ConstraintMap.Content (map.insert (key, c)) site counts ↔
    map.Content site (fun key' => counts key' ∧ key' ≠ key) ∧ (counts key → c.admits site key) := by
  constructor
  · intro h
    constructor
    · rintro key' c' hget ⟨hcounts, hne⟩
      exact h key' c' (by rw [TextMap.get?_insert, if_neg (Ne.symm hne), hget]) hcounts
    · exact h key c (by rw [TextMap.get?_insert, if_pos rfl])
  · rintro ⟨hothers, hc⟩ key' c' hget hcounts
    rw [TextMap.get?_insert] at hget
    split at hget
    next heq =>
      obtain rfl := Option.some.inj hget
      exact heq ▸ hc (heq.symm ▸ hcounts)
    next hne => exact hothers key' c' hget ⟨hcounts, Ne.symm hne⟩

/-- A constraint under a new name counts, and so do all others. -/
theorem content_insert_of_none (hnew : map.get? key = none) :
    ConstraintMap.Content (map.insert (key, c)) site counts ↔
      map.Content site counts ∧ (counts key → c.admits site key) := by
  rw [content_insert]
  refine and_congr_left fun _ => ⟨fun h key' c' hget hcounts => ?_, fun h key' c' hget hcounts => ?_⟩
  · refine h key' c' hget ⟨hcounts, ?_⟩
    rintro rfl
    rw [hnew] at hget
    cases hget
  · exact h key' c' hget hcounts.1

/-- A constraint that is combined with the one that is there counts, and so do all others. -/
theorem content_insert_all {present : Constraint} (hpresent : map.get? key = some present) :
    ConstraintMap.Content (map.insert (key, .all [present, c])) site counts ↔
      map.Content site counts ∧ (counts key → c.admits site key) := by
  have hall : (Constraint.all [present, c]).admits site key ↔
      present.admits site key ∧ c.admits site key := by
    simp [Constraint.admits, Constraint.admitsAll_eq]
  rw [content_insert, hall]
  constructor
  · rintro ⟨hothers, hboth⟩
    refine ⟨fun key' c' hget hcounts => ?_, fun hcounts => (hboth hcounts).2⟩
    by_cases heq : key' = key
    · subst heq
      obtain rfl := Option.some.inj (hpresent.symm.trans hget)
      exact (hboth hcounts).1
    · exact hothers key' c' hget ⟨hcounts, heq⟩
  · rintro ⟨hmap, hc⟩
    exact ⟨fun key' c' hget hcounts => hmap key' c' hget hcounts.1,
      fun hcounts => ⟨hmap key present hpresent hcounts, hc hcounts⟩⟩

end ConstraintMap

/-! ### Constraints as they are written -/

namespace ConstraintCatalog

variable {catalog : ConstraintCatalog} {site : Constraint.Site}

/-- Whether a constraint that is written for a name is content: it is for an optional parameter
without a value, or it names a constraint that admits the value. Constraints are asked under the
folded name, which only those from outside of this library may tell from the name as it is
written. -/
def accepts (catalog : ConstraintCatalog) (site : Constraint.Site) (name : String)
    (isOptional : Bool) (written : InlineConstraint) : Bool :=
  (isOptional && (site.values.nonEmpty? name).isNone) ||
    match catalog.resolve written with
    | .ok made => made.admits site (fold name)
    | .error _ => false

/-- One constraint that is written is content if what it names is. -/
theorem accepts_eq {written : InlineConstraint} {made : Constraint}
    (h : catalog.resolve written = .ok made) (isOptional : Bool) (name : String) :
    catalog.accepts site name isOptional written =
      (forParameter isOptional made).admits site (fold name) := by
  have hvalue : site.values.nonEmpty? (fold name) = site.values.nonEmpty? name := by
    rw [Bindings.nonEmpty?, Bindings.nonEmpty?, Bindings.get?_congr _ (fold_fold name)]
  rw [accepts, h, forParameter]
  cases isOptional with
  | false => rfl
  | true =>
    rw [if_pos rfl, Constraint.admits, hvalue]
    cases site.values.nonEmpty? name <;> rfl

theorem admits_combine (made : List Constraint) (name : String) :
    (combine made).admits site name ↔ ∀ c ∈ made, c.admits site name := by
  unfold combine
  split
  · simp
  · rw [Constraint.admits, Constraint.admitsAll_eq, List.all_eq_true]

theorem admits_forParameter (isOptional : Bool) (c : Constraint) (name : String) :
    (forParameter isOptional c).admits site name ↔
      (isOptional ∧ site.values.nonEmpty? name = none) ∨ c.admits site name := by
  cases isOptional with
  | false => simp [forParameter]
  | true =>
    rw [forParameter, if_pos rfl, Constraint.admits]
    cases site.values.nonEmpty? name <;> simp

/-- Constraints that are written for one name are content if what they name is, combined. -/
theorem forall_accepts_iff {written : List InlineConstraint} {made : List Constraint}
    (h : catalog.resolveAll written = .ok made) (isOptional : Bool) (name : String) :
    (∀ c ∈ written, catalog.accepts site name isOptional c) ↔
      (forParameter isOptional (combine made)).admits site (fold name) := by
  have hmade : (∀ c ∈ written, catalog.accepts site name isOptional c) ↔
      ∀ c ∈ made, (forParameter isOptional c).admits site (fold name) := by
    induction written generalizing made with
    | nil =>
      obtain rfl := Except.ok.inj h
      simp
    | cons c written ih =>
      simp only [resolveAll] at h
      split at h
      · cases h
      next first hfirst =>
        split at h
        · cases h
        next others hothers =>
          obtain rfl := Except.ok.inj h
          rw [List.forall_mem_cons, List.forall_mem_cons, ih hothers, accepts_eq hfirst]
  rw [hmade, admits_forParameter, admits_combine]
  simp only [admits_forParameter, forall_or_left]

/-- The constraints of parameters with new and pairwise different names are all put in the map. -/
theorem content_resolveParameters {counts : String → Prop} {ps : List Parameter}
    {map map' : ConstraintMap} (h : catalog.resolveParameters map ps = .ok map')
    (hnodup : (ps.map (fold ·.name)).Nodup) (hnew : ∀ p ∈ ps, map.get? (fold p.name) = none) :
    map'.Content site counts ↔ map.Content site counts ∧
      ∀ p ∈ ps, counts (fold p.name) →
        ∀ c ∈ p.constraints, catalog.accepts site p.name p.isOptional c := by
  induction ps generalizing map with
  | nil =>
    obtain rfl := Except.ok.inj h
    simp
  | cons p ps ih =>
    rw [List.map_cons, List.nodup_cons] at hnodup
    rw [List.forall_mem_cons] at hnew ⊢
    simp only [resolveParameters] at h
    split at h
    next hconstrained =>
      split at h
      · cases h
      next made hmade =>
        have hnew' : ∀ q ∈ ps, TextMap.get? (map.insert
            (fold p.name, forParameter p.isOptional (combine made))) (fold q.name) = none := by
          intro q hq
          rw [TextMap.get?_insert, if_neg, hnew.2 q hq]
          exact fun heq => hnodup.1 (heq ▸ List.mem_map_of_mem hq)
        rw [ih h hnodup.2 hnew', ConstraintMap.content_insert_of_none hnew.1,
          forall_accepts_iff hmade, and_assoc]
    next hconstrained =>
      have hnone : p.constraints = [] := by simpa [Parameter.isConstrained] using hconstrained
      rw [ih h hnodup.2 hnew.2, hnone]
      simp

end ConstraintCatalog

/-! ### Declarations -/

namespace Declaration

variable {d : Declaration} {catalog : ConstraintCatalog} {t : Template} {site : Constraint.Site}

/-- Whether the constraints that are written for a name count: methods take the place of those that
are written for their own name. -/
def Counts (d : Declaration) (name : String) : Prop := d.methods = [] ∨ fold name ≠ methodKey

instance (d : Declaration) (name : String) : Decidable (d.Counts name) :=
  inferInstanceAs (Decidable (d.methods = [] ∨ fold name ≠ methodKey))

/-- Whether everything that a declaration restricts is content. -/
structure Passes (d : Declaration) (catalog : ConstraintCatalog) (t : Template)
    (site : Constraint.Site) : Prop where
  /-- Each constraint of each parameter is. -/
  parameters : ∀ p ∈ t.parameters, d.Counts p.name →
    ∀ c ∈ p.constraints, catalog.accepts site p.name p.isOptional c
  /-- Each constraint beside the template is. -/
  constraints : ∀ a ∈ d.constraints.items, d.Counts a.1 →
    catalog.accepts site a.1 ((t.parameter? a.1).any (·.isOptional)) ⟨a.2⟩
  /-- A request has one of the methods in upper case, if there are some. -/
  methods : d.methods ≠ [] → site.direction = .incoming →
    site.request.method ∈ d.methods.map upperAscii

/-- All constraints beside the template are put in the map, also those whose names are equal up to
case. -/
theorem content_addConstraints {counts : String → Prop} {written : List (String × String)}
    {map map' : ConstraintMap} (h : addConstraints catalog t map written = .ok map') :
    map'.Content site counts ↔ map.Content site counts ∧
      ∀ a ∈ written, counts (fold a.1) →
        catalog.accepts site a.1 ((t.parameter? a.1).any (·.isOptional)) ⟨a.2⟩ := by
  induction written generalizing map with
  | nil =>
    obtain rfl := Except.ok.inj h
    simp
  | cons a written ih =>
    simp only [addConstraints] at h
    split at h
    · cases h
    next made hmade =>
      rw [List.forall_mem_cons, ConstraintCatalog.accepts_eq hmade, ← and_assoc, ih h]
      refine and_congr_left fun _ => ?_
      cases hget : map.get? (fold a.1) with
      | none => exact ConstraintMap.content_insert_of_none hget
      | some present => exact ConstraintMap.content_insert_all hget

theorem eq_of_readMethods {written methods : List String} (h : readMethods written = .ok methods) :
    methods = written.map upperAscii := by
  induction written generalizing methods with
  | nil => exact (Except.ok.inj h).symm
  | cons m written ih =>
    simp only [readMethods] at h
    split at h
    · split at h
      next others hothers =>
        obtain rfl := Except.ok.inj h
        rw [List.map_cons, ih hothers]
      · cases h
    · cases h

theorem admits_method (methods : List String) (key : String) :
    (Constraint.method methods).admits site key ↔
      (site.direction = .incoming → site.request.method ∈ methods) := by
  rw [Constraint.admits]
  cases site.direction <;> simp

/-- The constraints of a route are content exactly if everything that its declaration restricts
is. -/
theorem firstRejection?_compileConstraints {map : ConstraintMap}
    (h : d.compileConstraints catalog t = .ok map)
    (hnames : (t.parameters.map (fold ·.name)).Nodup) :
    firstRejection? map site = none ↔ d.Passes catalog t site := by
  have hempty (counts : String → Prop) : ConstraintMap.Content .empty site counts := nofun
  rw [ConstraintMap.firstRejection?_eq_none_iff]
  unfold compileConstraints at h
  split at h
  · cases h
  next inTemplate hinTemplate =>
    split at h
    · cases h
    next beside hbeside =>
      have hwritten (counts : String → Prop) : beside.Content site counts ↔
          (∀ p ∈ t.parameters, counts (fold p.name) →
            ∀ c ∈ p.constraints, catalog.accepts site p.name p.isOptional c) ∧
          ∀ a ∈ d.constraints.items, counts (fold a.1) →
            catalog.accepts site a.1 ((t.parameter? a.1).any (·.isOptional)) ⟨a.2⟩ := by
        rw [content_addConstraints hbeside,
          ConstraintCatalog.content_resolveParameters hinTemplate hnames fun _ _ => rfl]
        simp [hempty]
      split at h
      next hmethods =>
        have hnone : d.methods = [] := by simpa using hmethods
        obtain rfl := Except.ok.inj h
        rw [hwritten]
        constructor
        · rintro ⟨hparameters, hconstraints⟩
          exact ⟨fun p hp _ => hparameters p hp trivial,
            fun a ha _ => hconstraints a ha trivial,
            fun hsome => absurd hnone hsome⟩
        · intro hpasses
          exact ⟨fun p hp _ => hpasses.parameters p hp (Or.inl hnone),
            fun a ha _ => hpasses.constraints a ha (Or.inl hnone)⟩
      next hmethods =>
        have hsome : d.methods ≠ [] := by simpa using hmethods
        split at h
        next methods hread =>
          obtain rfl := Except.ok.inj h
          rw [ConstraintMap.content_insert, hwritten, admits_method, eq_of_readMethods hread]
          constructor
          · rintro ⟨⟨hparameters, hconstraints⟩, hmethod⟩
            exact ⟨fun p hp hcounts => hparameters p hp ⟨trivial, hcounts.resolve_left hsome⟩,
              fun a ha hcounts => hconstraints a ha ⟨trivial, hcounts.resolve_left hsome⟩,
              fun _ => hmethod trivial⟩
          · intro hpasses
            exact ⟨⟨fun p hp hcounts => hpasses.parameters p hp (Or.inr hcounts.2),
              fun a ha hcounts => hpasses.constraints a ha (Or.inr hcounts.2)⟩,
              fun _ => hpasses.methods hsome⟩
        · cases h

/-- **Compiling loses no constraint** but those for which methods are put: the two entries of a
declaration reject nothing exactly if everything that the declaration restricts is content. -/
theorem firstRejection?_compile {τ : Type} {target : τ} {inbound : Inbound τ} {outbound : Outbound}
    (h : d.compile catalog target = .ok (inbound, outbound)) (site : Constraint.Site) :
    (firstRejection? inbound.constraints site = none ↔
      d.Passes catalog inbound.pattern.template site) ∧
    (firstRejection? outbound.constraints site = none ↔
      d.Passes catalog outbound.pattern.template site) := by
  unfold compile at h
  split at h
  · cases h
  next t hparse =>
    split at h
    · cases h
    next map hmap =>
      obtain ⟨rfl, rfl⟩ := Prod.mk.inj (Except.ok.inj h)
      have hnames := (parameters_of_parse hparse).names
      exact ⟨firstRejection?_compileConstraints hmap hnames,
        firstRejection?_compileConstraints hmap hnames⟩

/-- A declaration whose constraints have names that are equal up to case. -/
def sampleDeclaration : Declaration where
  template := "v/\x7bid:int:min(3)\x7d/\x7bk:alpha?\x7d"
  constraints := .ofList [("ID", "max(9)"), ("Id", "length(1)"), ("K", "minlength(2)")]
  methods := ["get", "Head"]

/-- Several constraints of one name all count, and an optional parameter may go without a value. -/
theorem firstRejection?_compile_sample :
    ∃ inbound outbound, sampleDeclaration.compile .stock () = .ok (inbound, outbound) ∧
      firstRejection? inbound.constraints
        ⟨{ method := "HEAD", path := "/v/5" }, .ofPairs [("id", "5")], .incoming⟩ = none := by
  have hcompile : (match sampleDeclaration.compile .stock () with
      | .ok (inbound, _) => some inbound.pattern.template.segments
      | .error _ => none) = some
        [[.literal "v"], [.parameter { name := "id", constraints := [⟨"int"⟩, ⟨"min(3)"⟩] }],
          [.parameter { name := "k", isOptional := true, constraints := [⟨"alpha"⟩] }]] := by
    decide +kernel
  split at hcompile
  next inbound outbound h =>
    refine ⟨inbound, outbound, h, (firstRejection?_compile h _).1.2 ?_⟩
    rw [Option.some.injEq] at hcompile
    constructor
    · rw [Template.parameters, hcompile]
      decide +kernel
    · simp only [Template.parameter?, Template.parameters, hcompile]
      decide +kernel
    · decide +kernel
  · cases hcompile

/-- A parameter is not checked if it has the name under which methods are. -/
theorem methods_replace_constraint :
    ∃ inbound outbound, compile
        { template := "v/\x7bhttpMethod:int\x7d", methods := ["get"] } .stock () =
          .ok (inbound, outbound) ∧
      firstRejection? inbound.constraints
        ⟨{ method := "GET", path := "/v/x" }, .ofPairs [("httpMethod", "x")], .incoming⟩ = none ∧
      ∃ p ∈ inbound.pattern.template.parameters, ∃ c ∈ p.constraints,
        ConstraintCatalog.stock.accepts
          ⟨{ method := "GET", path := "/v/x" }, .ofPairs [("httpMethod", "x")], .incoming⟩
          p.name p.isOptional c = false := by
  have hcompile : (match compile
        { template := "v/\x7bhttpMethod:int\x7d", methods := ["get"] } .stock () with
      | .ok (inbound, _) => some (inbound.pattern.template.parameters, firstRejection?
          inbound.constraints
          ⟨{ method := "GET", path := "/v/x" }, .ofPairs [("httpMethod", "x")], .incoming⟩)
      | .error _ => none) =
        some ([{ name := "httpMethod", constraints := [⟨"int"⟩] }], none) := by
    decide +kernel
  split at hcompile
  next inbound outbound h =>
    obtain ⟨hparameters, hpasses⟩ := Prod.mk.inj (Option.some.inj hcompile)
    refine ⟨inbound, outbound, h, hpasses, { name := "httpMethod", constraints := [⟨"int"⟩] }, ?_,
      ⟨"int"⟩, List.mem_singleton_self _, by decide +kernel⟩
    rw [hparameters]
    exact List.mem_singleton_self _
  · cases hcompile

end Declaration

end UrlRouting

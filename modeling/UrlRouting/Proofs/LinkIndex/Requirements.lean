import UrlRouting.Proofs.LinkIndex.Scan
import UrlRouting.Proofs.RoutePattern.Choice
import UrlRouting.Router.Linking

/-!
# Links carry the values that their entries were found by

An index looks at each name by itself, while the values for a link are chosen in the order of the
parameters: a current value by which an entry was found is given up if a parameter before it
changes, and a name that must not be asked with may still have a current value or a default. A
requirement that `Requirement.Persists` is met by the chosen values
(`LinkIndex.isCarriedBy_of_mem_candidates`), and there is no other that is
(`Requirement.isCarriedBy_combined_iff`).
-/

namespace UrlRouting

open Text

/-! ### Requirements and chosen values -/

namespace RoutePattern

/-- Whether a name has a current value that is used for a link. -/
def reuses (r : RoutePattern) (ambient asked : Bindings) (name : String) : Bool :=
  (inherited? ambient asked name).isSome && keepsBefore ambient asked r.template.parameters name

/-- Whether a name has a current value that is given up, since a parameter before it changes. -/
def drops (r : RoutePattern) (ambient asked : Bindings) (name : String) : Bool :=
  (inherited? ambient asked name).isSome && !keepsBefore ambient asked r.template.parameters name

end RoutePattern

namespace Requirement

/-- Whether some values are as a requirement asks. -/
def isCarriedBy (vs : Bindings) (name : String) : Requirement → Bool
  | .exact text => (vs.get? name).any fun value => sameText value text
  | .any => (vs.nonEmpty? name).isSome
  | .absent => (vs.nonEmpty? name).isNone

/-- Whether a requirement that is met by the way in which its name is given is met by the chosen
value, too: the value that meets it is not given up, or the default meets it. A name that is not to
be given has no current value that is used, and no default. -/
def Persists (r : RoutePattern) (ambient asked : Bindings) (name : String) : Requirement → Prop
  | .exact text =>
    r.drops ambient asked name = false ∨ (exact text).isCarriedBy r.defaults name
  | .any => r.drops ambient asked name = false ∨ any.isCarriedBy r.defaults name
  | .absent => r.reuses ambient asked name = false ∧ absent.isCarriedBy r.defaults name

end Requirement

section

variable {r : RoutePattern} {ambient asked : Bindings} {name : String}

theorem inherited?_of_nonEmpty? {value : String} (h : asked.nonEmpty? name = some value) :
    inherited? ambient asked name = none := by
  rw [inherited?, if_pos (Bindings.has_of_nonEmpty? h)]

/-- The value that a name is given is chosen unless it is given up. -/
theorem RoutePattern.chosen?_eq :
    chosen? ambient asked (keepsBefore ambient asked r.template.parameters name) name =
      if r.drops ambient asked name then none else supplied? ambient asked name := by
  rw [chosen?, drops, supplied?]
  cases hasked : asked.nonEmpty? name with
  | some value => simp [inherited?_of_nonEmpty? hasked]
  | none =>
    cases inherited? ambient asked name with
    | none => simp
    | some current => cases keepsBefore ambient asked r.template.parameters name <;> simp

/-- A requirement that is met by the way in which its name is given is met by the chosen value
exactly if it persists. -/
theorem Requirement.isCarriedBy_combined_iff {sel : Selection}
    (hsel : r.select? ambient asked = some sel) (hname : r.IsParameter name)
    {requirement : Requirement} (hmet : requirement.isMet r.defaults ambient asked name) :
    requirement.isCarriedBy sel.combined name ↔ requirement.Persists r ambient asked name := by
  have hget := RoutePattern.get?_combined hsel hname
  have hnonEmpty := RoutePattern.nonEmpty?_combined hsel hname
  rw [RoutePattern.chosen?_eq] at hget hnonEmpty
  cases requirement with
  | exact text =>
    rw [isMet] at hmet
    rw [isCarriedBy, hget, Persists, isCarriedBy]
    cases r.drops ambient asked name with
    | true => simp
    | false =>
      cases hsupplied : supplied? ambient asked name with
      | some value => simpa [hsupplied] using hmet
      | none =>
        rw [hsupplied] at hmet
        obtain ⟨default, hdefault, hsame⟩ := (Option.any_eq_true _ _).1 hmet
        simp [(Bindings.nonEmpty?_eq_some.1 hdefault).1, hsame]
  | any =>
    rw [isMet] at hmet
    rw [isCarriedBy, hnonEmpty, Persists, isCarriedBy]
    cases r.drops ambient asked name with
    | true => simp
    | false => simpa using hmet
  | absent =>
    have hasked : asked.nonEmpty? name = none := Option.isNone_iff_eq_none.1 hmet
    rw [isCarriedBy, hnonEmpty, supplied?, hasked, Persists, isCarriedBy, RoutePattern.drops,
      RoutePattern.reuses]
    cases inherited? ambient asked name with
    | none => simp
    | some current =>
      cases RoutePattern.keepsBefore ambient asked r.template.parameters name <;> simp

end

/-! ### Entries that an index finds -/

section

variable {r : RoutePattern} {ambient asked asked' : Bindings}
  (hsame : ∀ name, r.IsParameter name → asked'.get? name = asked.get? name)

include hsame

theorem RoutePattern.keepsBefore_congr (name : String) :
    keepsBefore ambient asked' r.template.parameters name =
      keepsBefore ambient asked r.template.parameters name := by
  unfold keepsBefore
  rw [Bool.eq_iff_iff, List.all_eq_true, List.all_eq_true]
  refine forall₂_congr fun p hp => ?_
  have hget := hsame p.name ⟨p, (List.takeWhile_sublist _).subset hp, rfl⟩
  simp only [keeps, Bindings.nonEmpty?, Bindings.has_eq, hget]

variable {name : String} (hname : r.IsParameter name)

include hname

theorem Requirement.isMet_congr (requirement : Requirement) :
    requirement.isMet r.defaults ambient asked' name =
      requirement.isMet r.defaults ambient asked name := by
  have hget := hsame name hname
  cases requirement <;>
    simp only [isMet, supplied?, inherited?, Bindings.nonEmpty?, Bindings.has_eq, hget]

theorem Requirement.persists_congr (requirement : Requirement) :
    requirement.Persists r ambient asked' name ↔ requirement.Persists r ambient asked name := by
  have hget := hsame name hname
  cases requirement <;>
    simp only [Persists, RoutePattern.drops, RoutePattern.reuses, inherited?, Bindings.has_eq, hget,
      RoutePattern.keepsBefore_congr hsame]

end

/-- The value of a parameter is data for the template. -/
theorem Outbound.get?_inputOf {e : Outbound} (values : Bindings) {name : String}
    (h : e.pattern.IsParameter name) : (e.inputOf values).get? name = values.get? name := by
  refine Bindings.get?_filter fun b _ hfold => ?_
  rw [Bool.or_eq_true, RoutePattern.isSome_parameter?_iff]
  obtain ⟨p, hp, hpname⟩ := h
  exact Or.inr ⟨p, hp, hpname.trans hfold.symm⟩

namespace LinkIndex

variable {es : List Outbound} {ambient values : Bindings} {c : Candidate}

/-- The candidates are the entries all of whose requirements are met. -/
theorem mem_candidates_iff : c ∈ (ofEntries es).candidates ambient values ↔
    (c.entry, c.position) ∈ es.zipIdx ∧ c.entry.isViable ambient values ∧
      c.isFallback = c.entry.isFallback ambient values := by
  unfold candidates
  simp only [List.mem_map, List.mem_mergeSort]
  constructor
  · rintro ⟨⟨indexed, isFallback⟩, hfound, rfl⟩
    have hmet := (perm_found es ambient values).mem_iff.1 hfound
    obtain ⟨⟨e, position⟩, hmem, heq⟩ := List.mem_map.1 hmet
    obtain ⟨rfl, rfl⟩ := Prod.mk.inj heq
    obtain ⟨he, hviable⟩ := List.mem_filter.1 hmem
    exact ⟨he, hviable, rfl⟩
  · rintro ⟨he, hviable, hfallback⟩
    refine ⟨(.ofOutbound (vocabulary es) c.entry c.position, c.isFallback), ?_, rfl⟩
    refine (perm_found es ambient values).mem_iff.2 (List.mem_map.2 ⟨(c.entry, c.position), ?_, ?_⟩)
    · exact List.mem_filter.2 ⟨he, hviable⟩
    · rw [hfallback]

/-- **Links carry the values that their entries were found by**: where values are chosen for the
link of a candidate, each requirement on a parameter that persists is met by them. -/
theorem isCarriedBy_of_mem_candidates (hc : c ∈ (ofEntries es).candidates ambient values)
    {sel : Selection}
    (hsel : c.entry.pattern.select? ambient (c.entry.inputOf values) = some sel) {name : String}
    {requirement : Requirement} (hrequirement : (name, requirement) ∈ c.entry.requirements)
    (hparameter : (c.entry.pattern.template.parameter? name).isSome)
    (hpersists : requirement.Persists c.entry.pattern ambient values name) :
    requirement.isCarriedBy sel.combined name := by
  have hname := RoutePattern.isSome_parameter?_iff.1 hparameter
  have hsame (name : String) (h : c.entry.pattern.IsParameter name) :=
    Outbound.get?_inputOf values h
  have hviable := (mem_candidates_iff.1 hc).2.1
  have hmet : requirement.isMet c.entry.pattern.defaults ambient (c.entry.inputOf values) name := by
    rw [Requirement.isMet_congr hsame hname]
    exact List.all_eq_true.1 hviable _ hrequirement
  rw [Requirement.isCarriedBy_combined_iff hsel hname hmet, Requirement.persists_congr hsame hname]
  exact hpersists

/-- An entry of `{area?}/{c}/{a=x}` that is asked for without an area and with the action `z`. -/
def sampleEntry : Outbound where
  name? := none
  pattern := .ofTemplate
    { text := "\x7barea?\x7d/\x7bc\x7d/\x7ba=x\x7d"
      segments := [[.parameter { name := "area", isOptional := true }], [.parameter { name := "c" }],
        [.parameter { name := "a", default? := some "x" }]] } .empty
  constraints := .empty
  requirements := [("area", .absent), ("a", .exact "z")]
  group? := none

/-- The action of the current request is kept while the controller stays the same. -/
theorem isCarriedBy_of_mem_candidates_sample :
    ∃ c ∈ (ofEntries [sampleEntry]).candidates (.ofPairs [("c", "p"), ("a", "z")])
        (.ofPairs [("c", "P")]),
      ∃ sel, c.entry.pattern.select? (.ofPairs [("c", "p"), ("a", "z")])
          (c.entry.inputOf (.ofPairs [("c", "P")])) = some sel ∧
        (Requirement.exact "z").isCarriedBy sel.combined "a" := by
  have hc : { entry := sampleEntry, position := 0, isFallback := true : Candidate } ∈
      (ofEntries [sampleEntry]).candidates (.ofPairs [("c", "p"), ("a", "z")])
        (.ofPairs [("c", "P")]) :=
    mem_candidates_iff.2 ⟨by simp, by decide +kernel, by decide +kernel⟩
  obtain ⟨sel, hsel⟩ : ∃ sel, sampleEntry.pattern.select? (.ofPairs [("c", "p"), ("a", "z")])
      (sampleEntry.inputOf (.ofPairs [("c", "P")])) = some sel :=
    Option.isSome_iff_exists.1 (by decide +kernel)
  refine ⟨_, hc, sel, hsel, ?_⟩
  exact isCarriedBy_of_mem_candidates hc hsel (by simp [sampleEntry]) (by decide +kernel)
    (Or.inl (by decide +kernel))

/-- The area of the current request is taken over although the entry is for none, and its action is
given up for the default as soon as the controller changes. -/
theorem requirements_not_carried :
    ∃ c ∈ (ofEntries [sampleEntry]).candidates
        (.ofPairs [("area", "admin"), ("c", "p"), ("a", "z")]) (.ofPairs [("c", "q")]),
      ∃ sel, c.entry.pattern.select? (.ofPairs [("area", "admin"), ("c", "p"), ("a", "z")])
          (c.entry.inputOf (.ofPairs [("c", "q")])) = some sel ∧
        c.entry.requirements = [("area", .absent), ("a", .exact "z")] ∧
        sel.combined.get? "area" = some "admin" ∧ sel.combined.get? "a" = some "x" := by
  refine ⟨{ entry := sampleEntry, position := 0, isFallback := true },
    mem_candidates_iff.2 ⟨by simp, by decide +kernel, by decide +kernel⟩, ?_⟩
  have hchosen : (sampleEntry.pattern.select? (.ofPairs [("area", "admin"), ("c", "p"), ("a", "z")])
      (sampleEntry.inputOf (.ofPairs [("c", "q")]))).map
        (fun sel => (sel.combined.get? "area", sel.combined.get? "a")) =
      some (some "admin", some "x") := by
    decide +kernel
  obtain ⟨sel, hsel, hvalues⟩ := Option.map_eq_some_iff.1 hchosen
  exact ⟨sel, hsel, rfl, Prod.mk.inj hvalues⟩

end LinkIndex

end UrlRouting

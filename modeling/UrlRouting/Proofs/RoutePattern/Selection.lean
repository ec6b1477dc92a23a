import UrlRouting.Proofs.Bindings
import UrlRouting.Proofs.Text.Folding
import UrlRouting.RoutePattern.Filling

/-!
# The values that are chosen for a link

No chosen value is empty, and a chosen value that has no parameter has no default either
(`chosen_of_select?`). Values without a parameter are accepted all together, unless one contradicts
a default (`RoutePattern.acceptOthers_eq`).
-/

namespace UrlRouting

open Text

namespace Bindings

theorem nonEmpty?_eq_some {vs : Bindings} {name value : String} :
    vs.nonEmpty? name = some value ↔ vs.get? name = some value ∧ value ≠ "" := by
  simp [nonEmpty?, Option.filter_eq_some_iff]

theorem has_of_nonEmpty? {vs : Bindings} {name value : String}
    (h : vs.nonEmpty? name = some value) : vs.has name := by
  rw [has_eq, (nonEmpty?_eq_some.1 h).1]
  rfl

end Bindings

namespace RoutePattern

/-- A name is that of a parameter. -/
def IsParameter (r : RoutePattern) (name : String) : Prop :=
  ∃ p ∈ r.template.parameters, fold p.name = fold name

/-- Values that may be chosen for a link: none is empty, and those without a parameter have no
default. -/
structure Chosen (r : RoutePattern) (accepted : Bindings) : Prop where
  /-- No value is empty. -/
  nonEmpty : ∀ {name value : String}, accepted.get? name = some value → value ≠ ""
  /-- A name with a default is that of a parameter. -/
  others : ∀ {name value : String}, accepted.get? name = some value →
    r.IsParameter name ∨ r.defaults.get? name = none

variable {r : RoutePattern}

theorem isSome_parameter?_iff {name : String} :
    (r.template.parameter? name).isSome ↔ r.IsParameter name := by
  simp [Template.parameter?, List.find?_isSome, sameText_iff, IsParameter]

/-- Whether a value that is asked for is not empty and has neither a parameter nor a default. -/
def isOther (r : RoutePattern) (b : Binding) : Bool :=
  !b.value.isEmpty && (r.template.parameter? b.name).isNone && (r.defaults.get? b.name).isNone

/-- Whether a value that is asked for is not empty, has no parameter and differs from the default of
its name. -/
def contradicts (r : RoutePattern) (b : Binding) : Bool :=
  !b.value.isEmpty && (r.template.parameter? b.name).isNone &&
    (r.defaults.get? b.name).any fun given => !sameText given b.value

theorem isOther_iff {b : Binding} : r.isOther b ↔
    b.value ≠ "" ∧ ¬ r.IsParameter b.name ∧ r.defaults.get? b.name = none := by
  rw [isOther, Bool.and_eq_true, Bool.and_eq_true, Option.isNone_iff_eq_none, and_assoc,
    ← isSome_parameter?_iff]
  simp

theorem contradicts_iff {b : Binding} : r.contradicts b ↔
    b.value ≠ "" ∧ ¬ r.IsParameter b.name ∧
      ∃ given, r.defaults.get? b.name = some given ∧ sameText given b.value = false := by
  rw [contradicts, Bool.and_eq_true, Bool.and_eq_true, Option.any_eq_true, and_assoc,
    ← isSome_parameter?_iff]
  simp

/-- Values without a parameter are accepted unless one contradicts a default. -/
theorem acceptOthers_eq (accepted : Bindings) (bs : List Binding) :
    r.acceptOthers accepted bs =
      if bs.any r.contradicts then none
      else some (SortedBy.insertAll (bs.filter r.isOther) accepted) := by
  induction bs generalizing accepted with
  | nil => rfl
  | cons b bs ih =>
    rw [acceptOthers, List.any_cons, List.filter_cons, contradicts, isOther]
    cases hvalue : b.value.isEmpty with
    | true => simp [ih]
    | false =>
      cases hparameter : r.template.parameter? b.name with
      | some p => simp [ih]
      | none =>
        cases hdefault : r.defaults.get? b.name with
        | none => simp [ih, Bindings.bind]
        | some given => cases hsame : sameText given b.value <;> simp [ih, hsame]

theorem eq_of_acceptOthers {accepted accepted' : Bindings} {bs : List Binding}
    (h : r.acceptOthers accepted bs = some accepted') :
    accepted' = SortedBy.insertAll (bs.filter r.isOther) accepted := by
  rw [acceptOthers_eq] at h
  split at h
  · cases h
  · exact (Option.some.inj h).symm

/-- What is selected: the values accepted for parameters and then those for other names. -/
theorem eq_of_select? {ambient asked : Bindings} {sel : Selection}
    (h : r.select? ambient asked = some sel) :
    r.acceptOthers (acceptParameters ambient asked true .empty r.template.parameters) asked.items =
        some sel.accepted ∧
      sel.combined = sel.accepted.withDefaults r.defaults := by
  unfold select? at h
  split at h
  · cases h
  next accepted haccept =>
    split at h
    · obtain rfl := Option.some.inj h
      exact ⟨haccept, rfl⟩
    · cases h

/-- Each parameter is provided for if something is selected. -/
theorem isProvided_of_select? {ambient asked : Bindings} {sel : Selection}
    (h : r.select? ambient asked = some sel) {p : Parameter} (hp : p ∈ r.template.parameters) :
    r.isProvided sel.accepted p := by
  unfold select? at h
  split at h
  · cases h
  next accepted haccept =>
    split at h
    next hprovided =>
      obtain rfl := Option.some.inj h
      exact List.all_eq_true.1 hprovided p hp
    next => cases h

theorem Chosen.empty : r.Chosen .empty := ⟨nofun, nofun⟩

/-- A value that is accepted next keeps the accepted ones chosen. -/
theorem Chosen.bind {accepted : Bindings} (h : r.Chosen accepted) {name value : String}
    (hvalue : value ≠ "") (hname : r.IsParameter name ∨ r.defaults.get? name = none) :
    r.Chosen (accepted.bind name value) where
  nonEmpty := by
    intro name' value' hget
    rw [Bindings.get?_bind] at hget
    split at hget
    · exact Option.some.inj hget ▸ hvalue
    · exact h.nonEmpty hget
  others := by
    intro name' value' hget
    rw [Bindings.get?_bind] at hget
    split at hget
    next heq =>
      rw [IsParameter, ← heq, ← r.defaults.get?_congr heq]
      exact hname
    next => exact h.others hget

/-- The values accepted for the parameters of a template are chosen. -/
theorem Chosen.acceptParameters {ambient asked accepted : Bindings} {usable : Bool}
    {ps : List Parameter} (h : r.Chosen accepted) (hps : ∀ p ∈ ps, p ∈ r.template.parameters) :
    r.Chosen (acceptParameters ambient asked usable accepted ps) := by
  induction ps generalizing usable accepted with
  | nil => exact h
  | cons p ps ih =>
    have hname : r.IsParameter p.name := ⟨p, hps p List.mem_cons_self, rfl⟩
    have ih {usable : Bool} {accepted : Bindings} (h : r.Chosen accepted) :
        r.Chosen (RoutePattern.acceptParameters ambient asked usable accepted ps) :=
      ih h fun p' hp' => hps p' (List.mem_cons_of_mem _ hp')
    simp only [RoutePattern.acceptParameters]
    split
    next value hvalue =>
      exact ih (h.bind (Bindings.nonEmpty?_eq_some.1 hvalue).2 (Or.inl hname))
    next =>
      split
      · exact ih h
      · split
        next value hvalue =>
          apply ih
          split
          · exact h.bind (Bindings.nonEmpty?_eq_some.1 hvalue).2 (Or.inl hname)
          · exact h
        next => exact ih h

/-- So are the values accepted for other names. -/
theorem Chosen.insertAll {accepted : Bindings} {bs : List Binding} (h : r.Chosen accepted)
    (hbs : ∀ b ∈ bs, r.isOther b) : r.Chosen (SortedBy.insertAll bs accepted) := by
  induction bs generalizing accepted with
  | nil => exact h
  | cons b bs ih =>
    rw [List.forall_mem_cons] at hbs
    obtain ⟨hvalue, -, hdefault⟩ := isOther_iff.1 hbs.1
    exact ih (h.bind hvalue (Or.inr hdefault)) hbs.2

theorem Chosen.acceptOthers {accepted accepted' : Bindings} {bs : List Binding}
    (h : r.Chosen accepted) (haccept : r.acceptOthers accepted bs = some accepted') :
    r.Chosen accepted' := by
  rw [eq_of_acceptOthers haccept]
  exact h.insertAll fun b hb => (List.mem_filter.1 hb).2

/-- What is chosen for a link. -/
theorem chosen_of_select? {ambient asked : Bindings} {sel : Selection}
    (h : r.select? ambient asked = some sel) :
    r.Chosen sel.accepted ∧ sel.combined = sel.accepted.withDefaults r.defaults := by
  obtain ⟨haccept, hcombined⟩ := eq_of_select? h
  exact ⟨(Chosen.empty.acceptParameters fun _ hp => hp).acceptOthers haccept, hcombined⟩

end RoutePattern

end UrlRouting

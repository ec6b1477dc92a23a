import UrlRouting.Proofs.RoutePattern.Selection
import UrlRouting.Proofs.Text.Folding

/-!
# What is chosen for a parameter

Choosing values goes through the parameters in order and remembers whether the current values may
still be used. What comes out for one name can be said without going through them
(`RoutePattern.get?_combined`): the value asked for counts, then the current one if no parameter
before the name gives up its current value (`RoutePattern.keepsBefore`), then the default.
-/

namespace UrlRouting

open Text

namespace RoutePattern

/-- Whether a parameter keeps its current value: it is asked for with this value or not at all. -/
def keeps (ambient asked : Bindings) (p : Parameter) : Bool :=
  match asked.nonEmpty? p.name with
  | some value => keepsAmbient (ambient.nonEmpty? p.name) value
  | none => !asked.has p.name

/-- Whether the parameters before the first one of a name keep their current values. -/
def keepsBefore (ambient asked : Bindings) (ps : List Parameter) (name : String) : Bool :=
  (ps.takeWhile fun p => fold p.name != fold name).all (keeps ambient asked)

/-- The value chosen for a parameter: the one asked for, or else the current one if it is usable. -/
def chosen? (ambient asked : Bindings) (usable : Bool) (name : String) : Option String :=
  (asked.nonEmpty? name).or (if usable then inherited? ambient asked name else none)

/-- The accepted values with the one that is chosen for a name, if one is. -/
def accept (accepted : Bindings) (name : String) : Option String → Bindings
  | some value => accepted.bind name value
  | none => accepted

theorem get?_accept (accepted : Bindings) (name name' : String) (value? : Option String) :
    (accept accepted name value?).get? name' =
      if fold name = fold name' then value?.or (accepted.get? name') else accepted.get? name' := by
  cases value? with
  | none => exact (ite_self _).symm
  | some value => exact Bindings.get?_bind accepted name value name'

section

variable {ambient asked accepted : Bindings} {usable : Bool} {p : Parameter} {ps : List Parameter}
  {name : String}

/-- The value of the first parameter is chosen, and the current values are usable behind it if it
keeps its own. -/
theorem acceptParameters_cons : acceptParameters ambient asked usable accepted (p :: ps) =
    acceptParameters ambient asked (usable && keeps ambient asked p)
      (accept accepted p.name (chosen? ambient asked usable p.name)) ps := by
  rw [acceptParameters, keeps, chosen?, inherited?]
  cases hasked : asked.nonEmpty? p.name with
  | some value => rfl
  | none =>
    cases hhas : asked.has p.name with
    | true => cases usable <;> rfl
    | false =>
      cases hambient : ambient.nonEmpty? p.name with
      | none => cases usable <;> rfl
      | some current => cases usable <;> rfl

theorem get?_acceptParameters_of_ne (h : ∀ p ∈ ps, fold p.name ≠ fold name) :
    (acceptParameters ambient asked usable accepted ps).get? name = accepted.get? name := by
  induction ps generalizing usable accepted with
  | nil => rfl
  | cons p ps ih =>
    rw [List.forall_mem_cons] at h
    rw [acceptParameters_cons, ih h.2, get?_accept, if_neg h.1]

theorem chosen?_congr {name' : String} (h : fold name = fold name') :
    chosen? ambient asked usable name = chosen? ambient asked usable name' := by
  simp only [chosen?, inherited?, Bindings.nonEmpty?, Bindings.has_eq, Bindings.get?_congr _ h]

/-- Where current values are no longer usable, no other value is chosen. -/
theorem chosen?_or_of_le (usable' : Bool) :
    (chosen? ambient asked (usable && usable') name).or (chosen? ambient asked usable name) =
      chosen? ambient asked usable name := by
  unfold chosen?
  cases asked.nonEmpty? name with
  | some value => rfl
  | none =>
    cases usable with
    | false => rfl
    | true =>
      cases usable' with
      | false => rfl
      | true => simp

/-- The value of a name is the one that is chosen where the first parameter of this name stands. -/
theorem get?_acceptParameters (h : ∃ p ∈ ps, fold p.name = fold name) :
    (acceptParameters ambient asked usable accepted ps).get? name =
      (chosen? ambient asked (usable && keepsBefore ambient asked ps name) name).or
        (accepted.get? name) := by
  induction ps generalizing usable accepted with
  | nil =>
    obtain ⟨p, hp, -⟩ := h
    cases hp
  | cons p ps ih =>
    rw [acceptParameters_cons]
    by_cases hname : fold p.name = fold name
    · have hbefore : keepsBefore ambient asked (p :: ps) name = true := by
        rw [keepsBefore, List.takeWhile_cons_of_neg (by simpa using hname)]
        rfl
      have hfirst : (accept accepted p.name (chosen? ambient asked usable p.name)).get? name =
          (chosen? ambient asked usable name).or (accepted.get? name) := by
        rw [get?_accept, if_pos hname, chosen?_congr hname]
      rw [hbefore, Bool.and_true]
      -- A parameter of the same name further on has nothing else to say.
      by_cases hmore : ∃ p ∈ ps, fold p.name = fold name
      · rw [ih hmore, hfirst, Bool.and_assoc, ← Option.or_assoc, chosen?_or_of_le]
      · push Not at hmore
        rw [get?_acceptParameters_of_ne hmore, hfirst]
    · obtain ⟨q, hq, hqname⟩ := h
      have hmore : q ∈ ps := by
        rcases List.mem_cons.1 hq with rfl | hq
        · exact absurd hqname hname
        · exact hq
      have hbefore : keepsBefore ambient asked (p :: ps) name =
          (keeps ambient asked p && keepsBefore ambient asked ps name) := by
        rw [keepsBefore, List.takeWhile_cons_of_pos (by simpa using hname)]
        rfl
      rw [ih ⟨q, hmore, hqname⟩, get?_accept, if_neg hname, hbefore, Bool.and_assoc]

end

variable {r : RoutePattern} {name : String}

/-- Values without a parameter do not touch those of parameters. -/
theorem get?_acceptOthers {accepted accepted' : Bindings} {bs : List Binding}
    (h : r.acceptOthers accepted bs = some accepted') (hname : r.IsParameter name) :
    accepted'.get? name = accepted.get? name := by
  rw [eq_of_acceptOthers h]
  refine Bindings.get?_insertAll_eq_none fun b hb hfold => ?_
  obtain ⟨-, hparameter, -⟩ := isOther_iff.1 (List.mem_filter.1 hb).2
  obtain ⟨p, hp, hpname⟩ := hname
  exact hparameter ⟨p, hp, hpname.trans hfold.symm⟩

/-- A name has a value in the end only if it had this value before or is asked for. -/
theorem exists_of_acceptOthers {accepted accepted' : Bindings} {bs : List Binding}
    (h : r.acceptOthers accepted bs = some accepted') {value : String}
    (hget : accepted'.get? name = some value) :
    accepted.get? name = some value ∨ ∃ b ∈ bs, fold b.name = fold name := by
  rw [eq_of_acceptOthers h] at hget
  by_cases hasked : ∃ b ∈ bs, fold b.name = fold name
  · exact Or.inr hasked
  · rw [Bindings.get?_insertAll_eq_none] at hget
    · exact Or.inl hget
    · exact fun b hb hfold => hasked ⟨b, (List.mem_filter.1 hb).1, hfold⟩

/-- A chosen value without a parameter is asked for. -/
theorem exists_asked_of_select? {ambient asked : Bindings} {sel : Selection}
    (h : r.select? ambient asked = some sel) {value : String}
    (hget : sel.accepted.get? name = some value) (hname : ¬ r.IsParameter name) :
    ∃ b ∈ asked.items, fold b.name = fold name := by
  have hnone : ∀ p ∈ r.template.parameters, fold p.name ≠ fold name :=
    fun p hp hfold => hname ⟨p, hp, hfold⟩
  apply (exists_of_acceptOthers (eq_of_select? h).1 hget).resolve_left
  rw [get?_acceptParameters_of_ne hnone, Bindings.get?_empty]
  nofun

/-- The value of a parameter with the defaults: the one chosen for it, or else its default. -/
theorem get?_combined {ambient asked : Bindings} {sel : Selection}
    (h : r.select? ambient asked = some sel) (hname : r.IsParameter name) :
    sel.combined.get? name =
      (chosen? ambient asked (keepsBefore ambient asked r.template.parameters name) name).or
        (r.defaults.get? name) := by
  obtain ⟨haccept, hcombined⟩ := eq_of_select? h
  rw [hcombined, Bindings.get?_withDefaults, get?_acceptOthers haccept hname,
    get?_acceptParameters hname, Bindings.get?_empty, Option.or_none, Bool.true_and]

theorem ne_empty_of_chosen? {ambient asked : Bindings} {usable : Bool} {value : String}
    (h : chosen? ambient asked usable name = some value) : value ≠ "" := by
  unfold chosen? at h
  rcases Option.or_eq_some_iff.1 h with hasked | ⟨-, hcurrent⟩
  · exact (Bindings.nonEmpty?_eq_some.1 hasked).2
  · split at hcurrent
    · unfold inherited? at hcurrent
      split at hcurrent
      · cases hcurrent
      · exact (Bindings.nonEmpty?_eq_some.1 hcurrent).2
    · cases hcurrent

theorem nonEmpty?_combined {ambient asked : Bindings} {sel : Selection}
    (h : r.select? ambient asked = some sel) (hname : r.IsParameter name) :
    sel.combined.nonEmpty? name =
      (chosen? ambient asked (keepsBefore ambient asked r.template.parameters name) name).or
        (r.defaults.nonEmpty? name) := by
  rw [Bindings.nonEmpty?, get?_combined h hname]
  cases hchosen : chosen? ambient asked (keepsBefore ambient asked r.template.parameters name) name with
  | none => rfl
  | some value =>
    have hvalue := ne_empty_of_chosen? hchosen
    simp [hvalue]

end RoutePattern

end UrlRouting

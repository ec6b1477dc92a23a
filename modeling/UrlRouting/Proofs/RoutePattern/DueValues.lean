import UrlRouting.Proofs.RoutePattern.Choice
import UrlRouting.Proofs.Template.Parameters

/-!
# The values that are due

Which values are selected for a link can be said for each value alone. A value is due to a parameter
(`RoutePattern.Due`) if it is asked for, or if it is the current one, the parameter is not asked for
and no parameter before it gives up its current value; other values are due if they are asked for
under a name that has neither a parameter nor a default. The accepted values are exactly those that
are due, and nothing is selected exactly if a parameter that needs a value lacks one or a value
contradicts a default (`RoutePattern.selects_due_values`).
-/

namespace UrlRouting

open Text

namespace RoutePattern

/-! ### What is due -/

/-- A parameter keeps its current value: it is not asked for, or with the value that it has. -/
def KeepsCurrent (ambient asked : Bindings) (q : Parameter) : Prop :=
  asked.has q.name = false ∨ ∃ value current, asked.nonEmpty? q.name = some value ∧
    ambient.nonEmpty? q.name = some current ∧ sameText current value

/-- A value is due to a parameter behind others: it is asked for, or the parameter is not asked for,
this is its current value, and each parameter before keeps its own. -/
def Due (ambient asked : Bindings) (before : List Parameter) (p : Parameter) (value : String) :
    Prop :=
  asked.nonEmpty? p.name = some value ∨
    (asked.has p.name = false ∧ ambient.nonEmpty? p.name = some value ∧
      ∀ q ∈ before, KeepsCurrent ambient asked q)

/-- A binding is due: its value is due to the parameter of its name, or it is asked for and has
neither a parameter nor a default. -/
def IsDue (r : RoutePattern) (ambient asked : Bindings) (b : Binding) : Prop :=
  (∃ before p after, r.template.parameters = before ++ p :: after ∧ b.name = p.name ∧
    Due ambient asked before p b.value) ∨
  (b ∈ asked.items ∧ r.isOther b)

/-- A parameter that needs a value lacks one: no value is due to it, and it has no default. -/
def LacksValue (r : RoutePattern) (ambient asked : Bindings) : Prop :=
  ∃ before p after, r.template.parameters = before ++ p :: after ∧ p.isOptional = false ∧
    p.isCatchAll = false ∧ r.defaults.has p.name = false ∧
    ∀ value, ¬ Due ambient asked before p value

/-! ### Parameters -/

section

variable {ambient asked : Bindings} {before after ps : List Parameter} {p : Parameter}
  {value : String}

theorem keeps_iff : keeps ambient asked p ↔ KeepsCurrent ambient asked p := by
  unfold keeps KeepsCurrent
  cases hasked : asked.nonEmpty? p.name with
  | some value =>
    have hhas := Bindings.has_of_nonEmpty? hasked
    cases hcurrent : ambient.nonEmpty? p.name <;> simp [keepsAmbient, hhas]
  | none => simp

theorem chosen?_eq_some : chosen? ambient asked (before.all (keeps ambient asked)) p.name =
    some value ↔ Due ambient asked before p value := by
  have hall : before.all (keeps ambient asked) ↔ ∀ q ∈ before, KeepsCurrent ambient asked q := by
    simp only [List.all_eq_true, keeps_iff]
  unfold chosen? Due inherited?
  rw [← hall]
  cases hasked : asked.nonEmpty? p.name with
  | some value' =>
    have hhas := Bindings.has_of_nonEmpty? hasked
    simp [hhas]
  | none =>
    cases hhas : asked.has p.name <;> simp [and_comm]

variable (hnames : (ps.map (fold ·.name)).Nodup)
include hnames

/-- The parameters before one of them are those that have other names. -/
theorem keepsBefore_append (hps : ps = before ++ p :: after) :
    keepsBefore ambient asked ps p.name = before.all (keeps ambient asked) := by
  subst hps
  rw [List.map_append, List.nodup_append] at hnames
  have hother : ∀ q ∈ before, (fold q.name != fold p.name) = true := fun q hq => by
    simpa using hnames.2.2 _ (List.mem_map_of_mem hq) _ List.mem_cons_self
  rw [keepsBefore, List.takeWhile_append_of_pos hother, List.takeWhile_cons_of_neg (by simp),
    List.append_nil]

/-- A parameter has exactly the value that is due to it. -/
theorem get?_acceptParameters_eq_some (hps : ps = before ++ p :: after) :
    (acceptParameters ambient asked true .empty ps).get? p.name = some value ↔
      Due ambient asked before p value := by
  have hp : p ∈ ps := hps ▸ List.mem_append_right _ List.mem_cons_self
  rw [get?_acceptParameters ⟨p, hp, rfl⟩, Bindings.get?_empty, Option.or_none, Bool.true_and,
    keepsBefore_append hnames hps, chosen?_eq_some]

omit hnames in
/-- The values of parameters are accepted under the names as the parameters spell them. -/
theorem exists_name_of_acceptParameters {accepted : Bindings} {usable : Bool} {b : Binding}
    (h : b ∈ (acceptParameters ambient asked usable accepted ps).items) :
    b ∈ accepted.items ∨ ∃ p ∈ ps, b.name = p.name := by
  induction ps generalizing usable accepted with
  | nil => exact Or.inl h
  | cons p ps ih =>
    rw [acceptParameters_cons] at h
    rcases ih h with h | ⟨q, hq, hname⟩
    · cases hchosen : chosen? ambient asked usable p.name with
      | none =>
        rw [hchosen] at h
        exact Or.inl h
      | some value =>
        rw [hchosen] at h
        rcases SortedBy.mem_insert.1 h with rfl | ⟨h, -⟩
        · exact Or.inr ⟨p, List.mem_cons_self, rfl⟩
        · exact Or.inl h
    · exact Or.inr ⟨q, List.mem_cons_of_mem _ hq, hname⟩

/-- Accepted for parameters are the values that are due to them. -/
theorem mem_acceptParameters {b : Binding} :
    b ∈ (acceptParameters ambient asked true .empty ps).items ↔
      ∃ before p after, ps = before ++ p :: after ∧ b.name = p.name ∧
        Due ambient asked before p b.value := by
  have hspelled {b : Binding} (h : b ∈ (acceptParameters ambient asked true .empty ps).items) :
      ∃ p ∈ ps, b.name = p.name := (exists_name_of_acceptParameters h).resolve_left List.not_mem_nil
  constructor
  · intro hb
    obtain ⟨p, hp, hname⟩ := hspelled hb
    obtain ⟨before, after, hps⟩ := List.append_of_mem hp
    have hget := Bindings.get?_of_mem hb
    rw [hname] at hget
    exact ⟨before, p, after, hps, hname, (get?_acceptParameters_eq_some hnames hps).1 hget⟩
  · rintro ⟨before, p, after, hps, hname, hdue⟩
    obtain ⟨b', hb', hkey, hvalue⟩ :=
      Bindings.exists_of_get? ((get?_acceptParameters_eq_some hnames hps).2 hdue)
    -- no other parameter has this name in another spelling
    obtain ⟨q, hq, hname'⟩ := hspelled hb'
    have hp : p ∈ ps := hps ▸ List.mem_append_right _ List.mem_cons_self
    have hqp : q = p := List.inj_on_of_nodup_map hnames hq hp (by rw [← hname', hkey])
    have heq : b' = b := calc
      b' = ⟨b'.name, b'.value⟩ := rfl
      _ = ⟨b.name, b.value⟩ := by rw [hname', hqp, hname, hvalue]
      _ = b := rfl
    exact heq ▸ hb'

end

/-! ### Other values -/

variable {r : RoutePattern} {ambient asked : Bindings}

theorem acceptOthers_eq_none {accepted : Bindings} {bs : List Binding} :
    r.acceptOthers accepted bs = none ↔ ∃ b ∈ bs, r.contradicts b := by
  rw [acceptOthers_eq, ← List.any_eq_true]
  split <;> simp [*]

/-- What is accepted in the end are the values of parameters and the other values. -/
theorem mem_of_acceptOthers {accepted accepted' : Bindings}
    (haccepted : ∀ b ∈ accepted.items, r.IsParameter b.name)
    (h : r.acceptOthers accepted asked.items = some accepted') {b : Binding} :
    b ∈ accepted'.items ↔ b ∈ accepted.items ∨ (b ∈ asked.items ∧ r.isOther b) := by
  have hnodup : ((asked.items.filter r.isOther).map Binding.key).Nodup :=
    asked.keys_nodup.sublist (List.filter_sublist.map _)
  rw [eq_of_acceptOthers h, SortedBy.mem_insertAll hnodup, List.mem_filter, or_comm]
  refine or_congr_left (and_iff_left_of_imp fun hb b' hb' hkey => ?_)
  obtain ⟨p, hp, hname⟩ := haccepted b hb
  exact (isOther_iff.1 (List.mem_filter.1 hb').2).2.1 ⟨p, hp, hname.trans hkey.symm⟩

/-! ### The selection -/

section

variable {accepted : Bindings} (hsound : r.template.Sound)
  (haccept : r.acceptOthers (acceptParameters ambient asked true .empty r.template.parameters)
    asked.items = some accepted)
include hsound haccept

theorem mem_accepted {b : Binding} : b ∈ accepted.items ↔ r.IsDue ambient asked b := by
  have hparameters (b : Binding) :
      b ∈ (acceptParameters ambient asked true .empty r.template.parameters).items ↔
        ∃ before p after, r.template.parameters = before ++ p :: after ∧ b.name = p.name ∧
          Due ambient asked before p b.value :=
    mem_acceptParameters hsound.names
  rw [mem_of_acceptOthers (fun b hb => ?_) haccept, hparameters, IsDue]
  obtain ⟨before, p, after, hps, hname, -⟩ := (hparameters b).1 hb
  exact ⟨p, hps ▸ List.mem_append_right _ List.mem_cons_self, by rw [hname]⟩

/-- A parameter has an accepted value if one is due to it. -/
theorem has_accepted {before after : List Parameter} {p : Parameter}
    (hps : r.template.parameters = before ++ p :: after) :
    accepted.has p.name = false ↔ ∀ value, ¬ Due ambient asked before p value := by
  have hp : r.IsParameter p.name :=
    ⟨p, hps ▸ List.mem_append_right _ List.mem_cons_self, rfl⟩
  rw [Bindings.has_eq, get?_acceptOthers haccept hp, Option.isSome_eq_false_iff,
    Option.isNone_iff_eq_none, Option.eq_none_iff_forall_ne_some]
  exact forall_congr' fun value => not_congr (get?_acceptParameters_eq_some hsound.names hps)

/-- Some parameter is not provided for exactly if one lacks a value. -/
theorem all_isProvided : r.template.parameters.all (r.isProvided accepted) = false ↔
    r.LacksValue ambient asked := by
  rw [List.all_eq_false]
  simp only [isProvided, Bool.or_eq_true, not_or, Bool.not_eq_true]
  constructor
  · rintro ⟨p, hp, ⟨⟨hnone, hdefault⟩, hoptional⟩, hcatchAll⟩
    obtain ⟨before, after, hps⟩ := List.append_of_mem hp
    exact ⟨before, p, after, hps, hoptional, hcatchAll, hdefault,
      (has_accepted hsound haccept hps).1 hnone⟩
  · rintro ⟨before, p, after, hps, hoptional, hcatchAll, hdefault, hnone⟩
    have hp : p ∈ r.template.parameters := hps ▸ List.mem_append_right _ List.mem_cons_self
    exact ⟨p, hp, ⟨⟨(has_accepted hsound haccept hps).2 hnone, hdefault⟩, hoptional⟩, hcatchAll⟩

end

/-- **Selected are exactly the values that are due**, with the defaults of the other names; and
nothing is selected exactly if a parameter lacks a value or a value that is asked for contradicts a
default. -/
theorem selects_due_values {text : String} (hparse : Template.parse text = .ok r.template)
    (ambient asked : Bindings) :
    (r.select? ambient asked = none ↔
      r.LacksValue ambient asked ∨ ∃ b ∈ asked.items, r.contradicts b) ∧
    ∀ sel, r.select? ambient asked = some sel →
      (∀ b, b ∈ sel.accepted.items ↔ r.IsDue ambient asked b) ∧
      ∀ b, b ∈ sel.combined.items ↔
        b ∈ sel.accepted.items ∨ (b ∈ r.defaults.items ∧ sel.accepted.has b.name = false) := by
  have hsound := parameters_of_parse hparse
  constructor
  · unfold select?
    split
    next hnone => simp [acceptOthers_eq_none.1 hnone]
    next accepted haccept =>
      have hagree : ¬ ∃ b ∈ asked.items, r.contradicts b := by
        rw [← acceptOthers_eq_none, haccept]
        nofun
      rw [or_iff_left hagree, ← all_isProvided hsound haccept]
      split <;> simp [*]
  · intro sel hselect
    obtain ⟨haccept, hcombined⟩ := eq_of_select? hselect
    refine ⟨fun b => mem_accepted hsound haccept, fun b => ?_⟩
    rw [hcombined, Bindings.mem_withDefaults]

/-- From a request for `/eu/shop/cart` a link of `{region}/{app}/{page=home}` that asks for another
`app` keeps the region, which stands before it, and not the page, which stands behind it. -/
theorem selects_due_values_sample :
    ∃ (r : RoutePattern) (ambient asked : Bindings) (sel : Selection),
      Template.parse "\x7bregion\x7d/\x7bapp\x7d/\x7bpage=home\x7d" = .ok r.template ∧
      r.select? ambient asked = some sel ∧
      (∀ b, b ∈ sel.accepted.items ↔ r.IsDue ambient asked b) ∧
      sel.accepted.toPairs = [("app", "blog"), ("region", "eu")] ∧
      sel.combined.toPairs = [("app", "blog"), ("page", "home"), ("region", "eu")] := by
  let page : Parameter := { name := "page", default? := some "home" }
  let t : Template :=
    { text := "\x7bregion\x7d/\x7bapp\x7d/\x7bpage=home\x7d"
      segments := [[.parameter { name := "region" }], [.parameter { name := "app" }],
        [.parameter page]] }
  let r := RoutePattern.ofTemplate t .empty
  let ambient := Bindings.ofPairs [("region", "eu"), ("app", "shop"), ("page", "cart")]
  let asked := Bindings.ofPairs [("app", "blog")]
  have hparse : Template.parse "\x7bregion\x7d/\x7bapp\x7d/\x7bpage=home\x7d" =
      .ok r.template := by
    decide +kernel
  obtain ⟨sel, hsel⟩ : ∃ sel, r.select? ambient asked = some sel :=
    Option.isSome_iff_exists.1 (by decide +kernel)
  have haccepted : (r.select? ambient asked).map (·.accepted.toPairs) =
      some [("app", "blog"), ("region", "eu")] := by
    decide +kernel
  have hcombined : (r.select? ambient asked).map (·.combined.toPairs) =
      some [("app", "blog"), ("page", "home"), ("region", "eu")] := by
    decide +kernel
  rw [hsel] at haccepted hcombined
  exact ⟨r, ambient, asked, sel, hparse, hsel,
    ((selects_due_values hparse ambient asked).2 sel hsel).1, Option.some.inj haccepted,
    Option.some.inj hcombined⟩

end RoutePattern

end UrlRouting

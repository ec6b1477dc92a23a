import UrlRouting.Proofs.RoutePattern.DueValues
import UrlRouting.Proofs.Router.Selectors

/-!
# Links from accepted values

The values that are accepted for a link are all that is needed to write it again. Asked for on
their own, without any current values, each of them is due once more and nothing else is
(`RoutePattern.isDue_again`), so the same values are selected (`RoutePattern.select?_accepted`). A
router further down that is handed them writes the same link with the same entry
(`Router.accepted_values_suffice`).
-/

namespace UrlRouting

open Text

namespace RoutePattern

variable {r : RoutePattern} {ambient asked accepted : Bindings}

/-! ### What is due again -/

/-- Where there are no current values, the value that is due to a parameter is the one asked for. -/
theorem due_of_no_current {before : List Parameter} {p : Parameter} {value : String} :
    Due .empty asked before p value ↔ asked.nonEmpty? p.name = some value := by
  refine or_iff_left ?_
  rintro ⟨-, hcurrent, -⟩
  cases hcurrent

section

variable (hsound : r.template.Sound)
  (haccept : r.acceptOthers (acceptParameters ambient asked true .empty r.template.parameters)
    asked.items = some accepted)
include hsound haccept

/-- The value of a parameter is accepted under the name as the parameter spells it. -/
theorem name_eq_of_mem_accepted {b : Binding} (hb : b ∈ accepted.items) {p : Parameter}
    (hp : p ∈ r.template.parameters) (hname : fold b.name = fold p.name) : b.name = p.name := by
  rcases (mem_accepted hsound haccept).1 hb with ⟨before, q, after, hps, hspelled, -⟩ | ⟨-, hother⟩
  · have hq : q ∈ r.template.parameters := hps ▸ List.mem_append_right _ List.mem_cons_self
    rw [hspelled] at hname ⊢
    rw [List.inj_on_of_nodup_map hsound.names hq hp hname]
  · exact absurd ⟨p, hp, hname.symm⟩ (isOther_iff.1 hother).2.1

/-- If the accepted values alone are asked for, exactly they are due. -/
theorem isDue_again {b : Binding} : r.IsDue .empty accepted b ↔ b ∈ accepted.items := by
  constructor
  · rintro (⟨before, p, after, hps, hname, hdue⟩ | ⟨hb, -⟩)
    · have hp : p ∈ r.template.parameters := hps ▸ List.mem_append_right _ List.mem_cons_self
      have hget := (Bindings.nonEmpty?_eq_some.1 (due_of_no_current.1 hdue)).1
      obtain ⟨b', hb', hkey, hvalue⟩ := Bindings.exists_of_get? hget
      have hspelled := name_eq_of_mem_accepted hsound haccept hb' hp hkey
      have heq : b' = b := calc
        b' = ⟨b'.name, b'.value⟩ := rfl
        _ = ⟨b.name, b.value⟩ := by rw [hspelled, hname, hvalue]
        _ = b := rfl
      exact heq ▸ hb'
    · exact hb
  · intro hb
    rcases (mem_accepted hsound haccept).1 hb with ⟨before, p, after, hps, hname, -⟩ | ⟨-, hother⟩
    · have hchosen : r.Chosen accepted :=
        (Chosen.empty.acceptParameters fun _ hp => hp).acceptOthers haccept
      have hget := Bindings.get?_of_mem hb
      refine Or.inl ⟨before, p, after, hps, hname, due_of_no_current.2 ?_⟩
      rw [← hname]
      exact Bindings.nonEmpty?_eq_some.2 ⟨hget, hchosen.nonEmpty hget⟩
    · exact Or.inr ⟨hb, hother⟩

end

/-! ### What is selected again -/

/-- No accepted value contradicts a default: one without a parameter has none. -/
theorem Chosen.not_contradicts (h : r.Chosen accepted) {b : Binding} (hb : b ∈ accepted.items) :
    ¬ r.contradicts b := by
  intro hcontradicts
  obtain ⟨-, hparameter, given, hgiven, -⟩ := contradicts_iff.1 hcontradicts
  have hnone := (h.others (Bindings.get?_of_mem hb)).resolve_left hparameter
  rw [hgiven] at hnone
  cases hnone

/-- Selecting from what has been selected selects the same. -/
theorem select?_accepted (hsound : r.template.Sound) {sel : Selection}
    (h : r.select? ambient asked = some sel) : r.select? .empty sel.accepted = some sel := by
  obtain ⟨haccept, hcombined⟩ := eq_of_select? h
  have hchosen := (chosen_of_select? h).1
  obtain ⟨again, hagain⟩ : ∃ again,
      r.acceptOthers (acceptParameters .empty sel.accepted true .empty r.template.parameters)
        sel.accepted.items = some again := by
    rw [← Option.ne_none_iff_exists', Ne, acceptOthers_eq_none]
    rintro ⟨b, hb, hcontradicts⟩
    exact hchosen.not_contradicts hb hcontradicts
  have hsame : again = sel.accepted := by
    apply SortedBy.ext_of_mem
    intro b
    rw [mem_accepted hsound hagain, isDue_again hsound haccept]
  have hprovided : r.template.parameters.all (r.isProvided sel.accepted) :=
    List.all_eq_true.2 fun _ hp => isProvided_of_select? h hp
  rw [select?, hagain, hsame]
  dsimp only
  rw [if_pos hprovided, ← hcombined]

end RoutePattern

/-! ### Links -/

/-- Values that are accepted for a link of an entry are data for its template, none only selects
the entry. -/
theorem Outbound.inputOf_accepted {e : Outbound} {ambient values : Bindings} {sel : Selection}
    (h : e.pattern.select? ambient (e.inputOf values) = some sel) :
    e.inputOf sel.accepted = sel.accepted := by
  apply SortedBy.ext_of_mem
  intro b
  rw [mem_inputOf]
  refine and_iff_left_of_imp fun hb => ?_
  by_cases hparameter : e.pattern.IsParameter b.name
  · rw [isSelector, Bool.and_eq_false_iff, Option.isNone_eq_false_iff]
    exact Or.inr (RoutePattern.isSome_parameter?_iff.2 hparameter)
  · obtain ⟨b', hb', hname⟩ :=
      RoutePattern.exists_asked_of_select? h (Bindings.get?_of_mem hb) hparameter
    rw [← isSelector_congr hname]
    exact (mem_inputOf.1 hb').2

namespace Router

variable {τ ν : Type}

/-- Two receivers give the same answers to questions in which they are handed the same, or break
down both. -/
def AnswerAlike (answer answer' : LinkRequest → LinkReply τ) : Prop :=
  ∀ question question', question.provided? = question'.provided? →
    (answer question).link? = (answer' question').link? ∧
      (answer question).isBound = (answer' question').isBound ∧
      (answer question).ending = (answer' question').ending

/-- A request for a link by accepted values alone. -/
def askAgain (q : LinkRequest) (sel : Selection) : LinkRequest :=
  { q with ambient := .empty, values := sel.accepted }

/-- **The accepted values suffice**: if values are selected for a template that has been parsed, then
the accepted ones alone, without current values, lead to exactly the same selection, and the same
is written for it. So a router further down that is handed the accepted values writes with the same
entry the same link, if its receiver answers alike. -/
theorem accepted_values_suffice {r : RoutePattern} {text : String}
    (hparse : Template.parse text = .ok r.template) {ambient asked : Bindings} {sel : Selection}
    (h : r.select? ambient asked = some sel) :
    r.select? .empty sel.accepted = some sel ∧
    (r.select? .empty sel.accepted).map (fun again => r.write? again.accepted) =
      some (r.write? sel.accepted) ∧
    ∀ (e : Outbound) (q : LinkRequest), e.pattern = r → q.ambient = ambient →
      e.inputOf q.values = asked →
      ∀ (upper lower : Router τ ν) (receive receive' : ν → LinkRequest → LinkReply τ),
        AnswerAlike (receive upper.next) (receive' lower.next) →
        (lower.writeLink receive' (askAgain q sel) e).link? = (upper.writeLink receive q e).link? ∧
        (lower.writeLink receive' (askAgain q sel) e).ending =
          (upper.writeLink receive q e).ending := by
  have hagain := RoutePattern.select?_accepted (parameters_of_parse hparse) h
  refine ⟨hagain, by rw [hagain]; rfl, ?_⟩
  rintro e q rfl rfl rfl upper lower receive receive' halike
  unfold writeLink askAgain
  dsimp only
  rw [Outbound.inputOf_accepted h, hagain, h]
  dsimp only
  split
  · exact ⟨rfl, rfl⟩
  · obtain ⟨hlink, hbound, hending⟩ := halike
      { q with provided? := some (e.provide sel.accepted) }
      { askAgain q sel with provided? := some (e.provide sel.accepted) } rfl
    unfold askAgain at hlink hbound hending
    rw [← hlink, ← hbound, ← hending]
    split
    · exact ⟨rfl, rfl⟩
    · split
      · exact ⟨rfl, rfl⟩
      · exact ⟨rfl, rfl⟩

/-- A link that keeps the region of the request and carries a value in its query is written again
from what was accepted, where the request is not known. -/
theorem accepted_values_suffice_sample :
    ∃ (r : RoutePattern) (ambient asked : Bindings) (sel : Selection),
      Template.parse "\x7bregion\x7d/\x7bapp\x7d/\x7bpage=home\x7d" = .ok r.template ∧
      r.select? ambient asked = some sel ∧ r.select? .empty sel.accepted = some sel ∧
      sel.accepted.toPairs = [("app", "blog"), ("lang", "de"), ("region", "eu")] ∧
      r.write? sel.accepted = some "/eu/blog?lang=de" := by
  let page : Parameter := { name := "page", default? := some "home" }
  let t : Template :=
    { text := "\x7bregion\x7d/\x7bapp\x7d/\x7bpage=home\x7d"
      segments := [[.parameter { name := "region" }], [.parameter { name := "app" }],
        [.parameter page]] }
  let r := RoutePattern.ofTemplate t .empty
  let ambient := Bindings.ofPairs [("region", "eu"), ("app", "shop"), ("page", "cart")]
  let asked := Bindings.ofPairs [("app", "blog"), ("lang", "de")]
  have hparse : Template.parse "\x7bregion\x7d/\x7bapp\x7d/\x7bpage=home\x7d" =
      .ok r.template := by
    decide +kernel
  obtain ⟨sel, hsel⟩ : ∃ sel, r.select? ambient asked = some sel :=
    Option.isSome_iff_exists.1 (by decide +kernel)
  have haccepted : (r.select? ambient asked).map (·.accepted.toPairs) =
      some [("app", "blog"), ("lang", "de"), ("region", "eu")] := by
    decide +kernel
  have hwritten : (r.select? ambient asked).map (fun sel => r.write? sel.accepted) =
      some (some "/eu/blog?lang=de") := by
    decide +kernel
  rw [hsel] at haccepted hwritten
  exact ⟨r, ambient, asked, sel, hparse, hsel,
    (accepted_values_suffice (τ := Unit) (ν := Unit) hparse hsel).1,
    Option.some.inj haccepted, Option.some.inj hwritten⟩

end Router

end UrlRouting

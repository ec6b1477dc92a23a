import UrlRouting.Proofs.RoutePattern.Recovery
import UrlRouting.Proofs.RoutePattern.Regeneration
import UrlRouting.Proofs.Template.Acceptance

/-!
# When a selection can be written

Values that are selected for a link can be written as one unless an optional parameter leaves a gap
(`RoutePattern.HasGap`): nothing is written for it, and a segment behind it cannot be left out.
There is one more exception. A parameter that has the empty text as its default is provided for when
values are selected, but nothing can be written for it (`RoutePattern.RestsOnEmptyDefault`), not
even at the end of a path, where a default is left out (`RoutePattern.isSome_write?_iff`).
-/

namespace UrlRouting

open Text

/-- A segment is filled with some text if no value is empty. -/
theorem Segment.filled_ne_empty {s : Segment} {value : Parameter → String} (haccepted : s.Accepted)
    (hvalue : ∀ p, .parameter p ∈ s → value p ≠ "") : s.filled value ≠ "" := by
  obtain ⟨part, rest, rfl⟩ := List.exists_cons_of_ne_nil haccepted.nonEmpty
  have hpart : part.filled value ≠ "" := by
    cases part with
    | literal text => exact (haccepted.literals text List.mem_cons_self).1
    | parameter p => exact hvalue p List.mem_cons_self
  rw [Segment.filled_cons]
  simp [hpart]

namespace RoutePattern

/-! ### Gaps -/

/-- A segment cannot be left out: it is more than a parameter, or a value that is not the default up
to case is accepted for its parameter. -/
def MustStand (r : RoutePattern) (accepted : Bindings) (s : Segment) : Prop :=
  ∀ p, s = [.parameter p] →
    ∃ value, accepted.nonEmpty? p.name = some value ∧ r.isDefault p value = false

/-- An optional parameter without an accepted value, and without a default that is not empty, stands
before a segment that cannot be left out. -/
def HasGap (r : RoutePattern) (accepted : Bindings) : Prop :=
  ∃ front p back, r.template.segments = front ++ [.parameter p] :: back ∧ p.isOptional ∧
    accepted.has p.name = false ∧ r.defaults.nonEmpty? p.name = none ∧
    ∃ s ∈ back, r.MustStand accepted s

/-- A parameter that needs a value has only the empty text as its default. -/
def RestsOnEmptyDefault (r : RoutePattern) (accepted : Bindings) : Prop :=
  ∃ p ∈ r.template.parameters, p.isOptional = false ∧ p.isCatchAll = false ∧
    accepted.has p.name = false ∧ r.defaults.get? p.name = some ""

variable {r : RoutePattern} {accepted : Bindings} {s : Segment} {w : WrittenSegment}

/-! ### One segment -/

/-- Nothing is written for a name without an accepted value if it has no default or an empty one. -/
theorem Chosen.valueOf?_eq_none (h : r.Chosen accepted) {name : String} :
    r.valueOf? accepted name = none ↔
      accepted.has name = false ∧ r.defaults.nonEmpty? name = none := by
  rw [valueOf?, Option.or_eq_none_iff]
  refine and_congr_left fun _ => ?_
  rw [Bindings.has_eq, Option.isSome_eq_false_iff, Option.isNone_iff_eq_none]
  cases hget : accepted.get? name with
  | none => simp [Bindings.nonEmpty?, hget]
  | some value => simp [Bindings.nonEmpty?_eq_some.2 ⟨hget, h.nonEmpty hget⟩]

theorem isSome_writeParts? {parts : List Part} : (r.writeParts? accepted parts).isSome ↔
    ∀ p, .parameter p ∈ parts → r.valueOf? accepted p.name ≠ none := by
  induction parts with
  | nil => simp [writeParts?]
  | cons part parts ih =>
    have hparts : (r.writeParts? accepted (part :: parts)).isSome ↔
        (r.writePart? accepted part).isSome ∧ (r.writeParts? accepted parts).isSome := by
      rw [writeParts?]
      cases r.writePart? accepted part <;> cases r.writeParts? accepted parts <;> simp
    rw [hparts, ih]
    cases part with
    | literal text => simp [writePart?]
    | parameter q => simp [writePart?, Option.isSome_iff_ne_none]

/-- A segment is written if each parameter that needs a value has one. -/
theorem isSome_writeSegment?
    (hshared : ∀ p, .parameter p ∈ s → p.isOptional ∨ p.isCatchAll → s = [.parameter p]) :
    (r.writeSegment? accepted s).isSome ↔
      ∀ p, .parameter p ∈ s → p.isOptional = false → p.isCatchAll = false →
        r.valueOf? accepted p.name ≠ none := by
  unfold writeSegment?
  split
  next p hsole =>
    obtain rfl := Segment.eq_of_soleParameter? hsole
    cases hvalue : r.valueOf? accepted p.name with
    | some value => simp [hvalue]
    | none => cases hoptional : p.isOptional <;> simp [hvalue, hoptional]
  next hsole =>
    rw [Option.isSome_map, isSome_writeParts?]
    refine forall₂_congr fun p hp => ⟨fun hvalue _ _ => hvalue, fun hvalue => hvalue ?_ ?_⟩
    all_goals
      rw [Bool.eq_false_iff]
      intro hkind
      rw [hshared p hp (by simp [hkind])] at hsole
      cases hsole

/-- A segment without text is a parameter without a value, which it does not need. -/
theorem absent_of_text_eq_empty (haccepted : s.Accepted) (h : r.writeSegment? accepted s = some w)
    (hempty : w.text = "") : ∃ p, s = [.parameter p] ∧ r.valueOf? accepted p.name = none ∧
      (p.isOptional ∨ p.isCatchAll) ∧ w.elidable := by
  rcases writeSegment?_cases h with ⟨p, value, rfl, hvalue, htext, -⟩ |
    ⟨p, rfl, hvalue, hneeds, -, helidable⟩ | ⟨-, htext, hvalues, -⟩
  · have hne := ne_empty_of_valueOf? hvalue
    rw [htext] at hempty
    split at hempty
    · exact absurd hempty (encodePieces_ne_empty hne)
    · exact absurd (percentEncode_eq_empty.1 hempty) hne
  · exact ⟨p, rfl, hvalue, hneeds, helidable⟩
  · rw [htext, percentEncode_eq_empty] at hempty
    refine absurd hempty (Segment.filled_ne_empty haccepted fun p hp => ?_)
    exact ne_empty_of_valueOf? (hvalues p hp)

/-- A parameter without a value is written without text. -/
theorem text_of_absent {p : Parameter} (h : r.writeSegment? accepted [.parameter p] = some w)
    (hvalue : r.valueOf? accepted p.name = none) : w.text = "" ∧ w.elidable := by
  rcases writeSegment?_cases h with ⟨q, value, heq, hvalue', -⟩ | ⟨q, -, -, -, hw⟩ | ⟨hmore, -⟩
  · cases heq
    rw [hvalue] at hvalue'
    cases hvalue'
  · exact hw
  · exact absurd rfl (hmore p)

/-- What may be left out is a parameter without a value or with its default. -/
theorem elidable_eq_false (h : r.writeSegment? accepted s = some w) :
    w.elidable = false ↔ r.MustStand accepted s := by
  rcases writeSegment?_cases h with ⟨p, value, rfl, hvalue, -, helidable⟩ |
    ⟨p, rfl, hvalue, -, -, helidable⟩ | ⟨hmore, -, -, helidable⟩
  · rw [helidable]
    rw [valueOf?] at hvalue
    constructor
    · rintro hdefault q hq
      cases hq
      rcases Option.or_eq_some_iff.1 hvalue with haccepted | ⟨-, hgiven⟩
      · exact ⟨value, haccepted, hdefault⟩
      · -- a default is the default
        rw [isDefault, (Bindings.nonEmpty?_eq_some.1 hgiven).1, Option.any_some,
          sameText_self] at hdefault
        cases hdefault
    · intro hmust
      obtain ⟨value', haccepted, hdefault⟩ := hmust p rfl
      rw [haccepted, Option.some_or, Option.some_inj] at hvalue
      rwa [← hvalue]
  · rw [valueOf?, Option.or_eq_none_iff] at hvalue
    rw [helidable]
    refine iff_of_false Bool.noConfusion fun hmust => ?_
    obtain ⟨value, haccepted, -⟩ := hmust p rfl
    rw [hvalue.1] at haccepted
    cases haccepted
  · exact iff_of_true helidable fun p hp => absurd hp (hmore p)

/-! ### All segments -/

theorem isSome_writeSegments? {segments : List Segment} :
    (r.writeSegments? accepted segments).isSome ↔
      ∀ s ∈ segments, (r.writeSegment? accepted s).isSome := by
  induction segments with
  | nil => simp [writeSegments?]
  | cons s segments ih =>
    rw [List.forall_mem_cons, ← ih, writeSegments?]
    cases r.writeSegment? accepted s <;> cases r.writeSegments? accepted segments <;> simp

/-- A segment that may be left out is not dropped exactly if one that may not stands behind it. -/
theorem mem_dropElidable {ws : List WrittenSegment} (h : w.elidable) :
    w ∈ dropElidable ws ↔
      ∃ front back, ws = front ++ w :: back ∧ ∃ w' ∈ back, w'.elidable = false := by
  obtain ⟨dropped, hws, hdropped⟩ := exists_dropElidable ws
  constructor
  · intro hw
    obtain ⟨front, back, hkept⟩ := List.append_of_mem hw
    refine ⟨front, back ++ dropped, by rw [hws, hkept, List.append_assoc, List.cons_append], ?_⟩
    cases hlast : back.getLast? with
    | none =>
      -- it would be the last one that is kept
      rw [List.getLast?_eq_none_iff.1 hlast] at hkept
      have hend : (dropElidable ws).getLast? = some w := by
        rw [hkept, List.getLast?_concat]
      rw [elidable_getLast? hend] at h
      cases h
    | some w' =>
      have hend : (dropElidable ws).getLast? = some w' := by
        rw [hkept, List.getLast?_append, List.getLast?_cons, hlast]
        rfl
      exact ⟨w', List.mem_append_left _ (List.mem_of_getLast? hlast), elidable_getLast? hend⟩
  · rintro ⟨front, back, rfl, w', hw', hstands⟩
    have hnot : w' ∉ dropped := by
      intro hmem
      rw [hdropped w' hmem] at hstands
      cases hstands
    rcases List.append_eq_append_iff.1 hws with ⟨more, hkept, hrest⟩ | ⟨more, -, rfl⟩
    · cases more with
      | nil =>
        rw [List.nil_append] at hrest
        rw [← hrest] at hnot
        exact absurd (List.mem_cons_of_mem w hw') hnot
      | cons w'' more =>
        obtain ⟨rfl, -⟩ := List.cons.inj hrest
        rw [hkept]
        exact List.mem_append_right _ List.mem_cons_self
    · exact absurd (List.mem_append_right _ (List.mem_cons_of_mem w hw')) hnot

/-- Segments are written as a link if something is written for each that is not dropped. -/
theorem isSome_write? {ws : List WrittenSegment}
    (h : r.writeSegments? accepted r.template.segments = some ws) :
    (r.write? accepted).isSome ↔ ∀ w ∈ dropElidable ws, w.text ≠ "" := by
  have htexts : ((dropElidable ws).map (·.text)).any (·.isEmpty) = false ↔
      ∀ w ∈ dropElidable ws, w.text ≠ "" := by
    simp
  rw [write?, h, ← htexts]
  dsimp only
  split <;> simp [*]

section

variable {text : String} {ambient asked : Bindings} {sel : Selection}
  (hparse : Template.parse text = .ok r.template) (hselect : r.select? ambient asked = some sel)
include hparse hselect

/-- All segments of a selection are written unless an empty default is needed. -/
theorem isSome_writeSegments?_iff :
    (r.writeSegments? sel.accepted r.template.segments).isSome ↔
      ¬ r.RestsOnEmptyDefault sel.accepted := by
  have haccepted := Template.accepted_of_parse hparse
  have hchosen := (chosen_of_select? hselect).1
  have hshared {s : Segment} (hs : s ∈ r.template.segments) (p : Parameter)
      (hp : .parameter p ∈ s) (hkind : p.isOptional ∨ p.isCatchAll) : s = [.parameter p] := by
    rcases hkind with hoptional | hcatchAll
    · exact (haccepted.optional s hs p hp hoptional).1
    · exact (haccepted.catchAll s hs p hp hcatchAll).1
  rw [isSome_writeSegments?]
  constructor
  · rintro hwritten ⟨p, hp, hoptional, hcatchAll, hnone, hempty⟩
    obtain ⟨s, hs, hps⟩ := List.mem_flatMap.1 hp
    refine (isSome_writeSegment? (hshared hs)).1 (hwritten s hs) p
      (Segment.mem_parameters_iff.1 hps) hoptional hcatchAll ?_
    refine hchosen.valueOf?_eq_none.2 ⟨hnone, ?_⟩
    rw [Bindings.nonEmpty?, hempty]
    rfl
  · intro hrests s hs
    rw [isSome_writeSegment? (hshared hs)]
    intro p hp hoptional hcatchAll hvalue
    obtain ⟨hnone, hdefault⟩ := hchosen.valueOf?_eq_none.1 hvalue
    have hmem : p ∈ r.template.parameters :=
      List.mem_flatMap.2 ⟨s, hs, Segment.mem_parameters_iff.2 hp⟩
    -- the parameter is provided for, so it has a default
    have hprovided := isProvided_of_select? hselect hmem
    rw [isProvided, hnone, hoptional, hcatchAll, Bool.or_false, Bool.or_false, Bool.false_or,
      Bindings.has_eq, Option.isSome_iff_exists] at hprovided
    obtain ⟨given, hgiven⟩ := hprovided
    refine hrests ⟨p, hmem, hoptional, hcatchAll, hnone, ?_⟩
    by_contra hne
    have hgiven' := Bindings.nonEmpty?_eq_some.2 ⟨hgiven, fun hempty => hne (hempty ▸ hgiven)⟩
    rw [hdefault] at hgiven'
    cases hgiven'

/-- A segment without text is kept exactly if there is a gap. -/
theorem exists_empty_iff {ws : List WrittenSegment}
    (hws : r.writeSegments? sel.accepted r.template.segments = some ws) :
    (∃ w ∈ dropElidable ws, w.text = "") ↔ r.HasGap sel.accepted := by
  have haccepted := (Template.accepted_of_parse hparse).segments
  have hlast := (parameters_of_parse hparse).catchAll
  have hchosen := (chosen_of_select? hselect).1
  let Written (s : Segment) (w : WrittenSegment) : Prop :=
    s ∈ r.template.segments ∧ r.writeSegment? sel.accepted s = some w
  have hwritten : List.Forall₂ Written r.template.segments ws :=
    forall₂_of_writeSegments? (fun s hs w hw => ⟨hs, hw⟩) hws
  constructor
  · rintro ⟨w, hw, hempty⟩
    have helidable : w.elidable := by
      obtain ⟨s, -, hs, hsw⟩ :=
        exists_of_forall₂ hwritten.flip (dropElidable_subset ws hw)
      obtain ⟨p, -, -, -, helidable⟩ := absent_of_text_eq_empty (haccepted s hs) hsw hempty
      exact helidable
    obtain ⟨front, back, rfl, w', hw', hstands⟩ := (mem_dropElidable helidable).1 hw
    obtain ⟨front', s, back', hsegments, ⟨hs, hsw⟩, hback⟩ := exists_split_of_forall₂ hwritten
    obtain ⟨p, rfl, hvalue, hkind, -⟩ := absent_of_text_eq_empty (haccepted s hs) hsw hempty
    obtain ⟨s', hs', -, hsw'⟩ := exists_of_forall₂ hback.flip hw'
    obtain ⟨hnone, hdefault⟩ := hchosen.valueOf?_eq_none.1 hvalue
    have hoptional : p.isOptional := by
      refine hkind.resolve_right fun hcatchAll => ?_
      -- nothing stands behind a catch-all
      have hnot := hlast [.parameter p] (by
        rw [hsegments, List.dropLast_append_of_ne_nil (List.cons_ne_nil _ _),
          List.dropLast_cons_of_ne_nil (List.ne_nil_of_mem hs')]
        simp) p rfl
      rw [hcatchAll] at hnot
      cases hnot
    exact ⟨front', p, back', hsegments, hoptional, hnone, hdefault, s', hs',
      (elidable_eq_false hsw').1 hstands⟩
  · rintro ⟨front, p, back, hsegments, -, hnone, hdefault, s, hs, hmust⟩
    rw [hsegments] at hwritten
    obtain ⟨front', w, back', rfl, ⟨-, hpw⟩, hback⟩ := exists_split_of_forall₂ hwritten.flip
    obtain ⟨w', hw', -, hsw'⟩ := exists_of_forall₂ hback.flip hs
    obtain ⟨hempty, helidable⟩ :=
      text_of_absent hpw (hchosen.valueOf?_eq_none.2 ⟨hnone, hdefault⟩)
    exact ⟨w, (mem_dropElidable helidable).2
      ⟨front', back', rfl, w', hw', (elidable_eq_false hsw').2 hmust⟩, hempty⟩

end

/-- **A selection can be written unless an optional parameter leaves a gap** or a parameter that
needs a value has only the empty text as its default. -/
theorem isSome_write?_iff {text : String} (hparse : Template.parse text = .ok r.template)
    {ambient asked : Bindings} {sel : Selection} (hselect : r.select? ambient asked = some sel) :
    (r.write? sel.accepted).isSome ↔
      ¬ r.HasGap sel.accepted ∧ ¬ r.RestsOnEmptyDefault sel.accepted := by
  rw [← isSome_writeSegments?_iff hparse hselect]
  cases hws : r.writeSegments? sel.accepted r.template.segments with
  | none => simp [write?, hws]
  | some ws =>
    rw [isSome_write? hws, ← exists_empty_iff hparse hselect hws]
    simp

/-- With an area there is no gap in `{area?}/{page=home}`, and a link is written. -/
theorem isSome_write?_iff_sample :
    ∃ (r : RoutePattern) (asked : Bindings) (sel : Selection),
      Template.parse "\x7barea?\x7d/\x7bpage=home\x7d" = .ok r.template ∧
      r.select? .empty asked = some sel ∧ (r.write? sel.accepted).isSome := by
  let area : Parameter := { name := "area", isOptional := true }
  let page : Parameter := { name := "page", default? := some "home" }
  let t : Template :=
    { text := "\x7barea?\x7d/\x7bpage=home\x7d"
      segments := [[.parameter area], [.parameter page]] }
  let r := RoutePattern.ofTemplate t .empty
  let asked := Bindings.ofPairs [("area", "blog"), ("page", "list")]
  have hparse : Template.parse "\x7barea?\x7d/\x7bpage=home\x7d" = .ok r.template := by
    decide +kernel
  obtain ⟨sel, hselect⟩ : ∃ sel, r.select? .empty asked = some sel :=
    Option.isSome_iff_exists.1 (by decide +kernel)
  have hhas : (r.select? .empty asked).map (·.accepted.has "area") = some true := by
    decide +kernel
  rw [hselect, Option.map_some, Option.some_inj] at hhas
  have hcases {p : Parameter} (hp : p ∈ r.template.parameters) : p = area ∨ p = page := by
    simpa using (show p ∈ [area, page] from hp)
  refine ⟨r, asked, sel, hparse, hselect, (isSome_write?_iff hparse hselect).2 ⟨?_, ?_⟩⟩
  · rintro ⟨front, p, back, hsegments, hoptional, hnone, -⟩
    have hsegment : [.parameter p] ∈ r.template.segments := hsegments ▸ by simp
    rcases hcases (Segment.mem_flatMap_parameters hsegment) with rfl | rfl
    · rw [hhas] at hnone
      cases hnone
    · cases hoptional
  · rintro ⟨p, hp, hoptional, -, -, hempty⟩
    rcases hcases hp with rfl | rfl
    · cases hoptional
    · revert hempty
      decide +kernel

/-- For `{a=}` the empty default is selected, and it is read from `/`, but no link is written
although there is no gap. -/
theorem empty_default_is_not_written :
    ∃ (r : RoutePattern) (sel : Selection), Template.parse "\x7ba=\x7d" = .ok r.template ∧
      r.select? .empty .empty = some sel ∧ sel.combined.toPairs = [("a", "")] ∧
      r.fit? (.ofString "/") = some sel.combined ∧ ¬ r.HasGap sel.accepted ∧
      r.write? sel.accepted = none := by
  let a : Parameter := { name := "a", default? := some "" }
  let r := RoutePattern.ofTemplate { text := "\x7ba=\x7d", segments := [[.parameter a]] } .empty
  have hparse : Template.parse "\x7ba=\x7d" = .ok r.template := by
    decide +kernel
  have hvalues : (r.select? .empty .empty).map (fun sel => (sel.accepted, sel.combined)) =
      some (.empty, .ofPairs [("a", "")]) := by
    decide +kernel
  obtain ⟨⟨accepted, combined⟩, hselect, heq⟩ := Option.map_eq_some_iff.1 hvalues
  cases heq
  refine ⟨r, _, hparse, hselect, by decide +kernel, by decide +kernel, ?_, by decide +kernel⟩
  rintro ⟨front, p, back, hsegments, hoptional, -⟩
  have hsegment : [.parameter p] ∈ r.template.segments := hsegments ▸ by simp
  have hp : p ∈ [a] := Segment.mem_flatMap_parameters hsegment
  rw [List.mem_singleton.1 hp] at hoptional
  cases hoptional

end RoutePattern

end UrlRouting

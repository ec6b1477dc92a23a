import UrlRouting.Proofs.RoutePattern.Query
import UrlRouting.Proofs.RoutePattern.Selection
import UrlRouting.Proofs.RoutePattern.Writing

/-!
# A link carries all of its values

The path of a link fits the pattern from which the link was written, and the values that it gives,
together with the pairs of the query, are the values that were chosen for the link with their
defaults (`carries_values`).
-/

namespace UrlRouting

open Text UrlPath

namespace RoutePattern

variable {r : RoutePattern} {accepted : Bindings} {front back : List Segment}
  {kept : List WrittenSegment}

/-! ### The path of a link -/

theorem mem_intercalate {c sep : Char} {parts : List (List Char)}
    (h : c ∈ [sep].intercalate parts) : c = sep ∨ ∃ part ∈ parts, c ∈ part := by
  induction parts with
  | nil => cases h
  | cons part parts ih =>
    cases parts with
    | nil => exact Or.inr ⟨part, List.mem_cons_self, by simpa using h⟩
    | cons part' parts =>
      rw [List.intercalate_cons_cons, List.mem_append, List.mem_append, List.mem_singleton] at h
      rcases h with (h | h) | h
      · exact Or.inr ⟨part, List.mem_cons_self, h⟩
      · exact Or.inl h
      · obtain h | ⟨part'', hpart, h⟩ := ih h
        · exact Or.inl h
        · exact Or.inr ⟨part'', List.mem_cons_of_mem _ hpart, h⟩

theorem notMem_encodePieces (value : String) : '?' ∉ (encodePieces value).toList := by
  rw [toList_encodePieces]
  intro h
  obtain h | ⟨part, hpart, h⟩ := mem_intercalate h
  · cases h
  · obtain ⟨piece, -, rfl⟩ := List.mem_map.1 hpart
    exact notMem_percentEncode (by decide) (by decide) _ h

theorem Writes.notMem {s : Segment} {w : WrittenSegment} (h : r.Writes accepted s w) :
    '?' ∉ w.text.toList := by
  cases h with
  | literal text => exact notMem_percentEncode (by decide) (by decide) text
  | value p value hvalue =>
    dsimp only
    split
    · exact notMem_encodePieces value
    · exact notMem_percentEncode (by decide) (by decide) value
  | absent p hvalue hneeds => exact List.not_mem_nil

/-- No question mark stands in a path if there is none in its segments. -/
theorem notMem_pathOf {kept : List WrittenSegment} (h : ∀ w ∈ kept, '?' ∉ w.text.toList) :
    '?' ∉ (pathOf kept).toList := by
  rw [pathOf, String.toList_append, String.toList_intercalate, List.mem_append]
  rintro (hc | hc)
  · cases hc with
    | tail _ hc => cases hc
  · obtain hc | ⟨part, hpart, hc⟩ := mem_intercalate hc
    · cases hc
    · rw [List.map_map] at hpart
      obtain ⟨w, hw, rfl⟩ := List.mem_map.1 hpart
      exact h w hw hc

/-- No question mark stands in the path of a link. -/
theorem Layout.notMem_pathOf (h : r.Layout accepted front back kept) :
    '?' ∉ (pathOf kept).toList := by
  refine RoutePattern.notMem_pathOf fun w hw => ?_
  obtain ⟨s, hs, hwrites⟩ := exists_of_forall₂ h.writes.flip hw
  exact Writes.notMem hwrites

/-! ### The values that are read back -/

/-- The values that the path of a link gives. -/
def recovered (r : RoutePattern) (accepted : Bindings) (front : List Segment) : Bindings :=
  Bindings.withDefaults (SortedBy.insertAll (r.writtenBindings accepted front) .empty) r.defaults

theorem mem_writtenBindings {segments : List Segment} {b : Binding} :
    b ∈ r.writtenBindings accepted segments ↔
      ∃ p, [.parameter p] ∈ segments ∧ p.name = b.name ∧
        r.valueOf? accepted p.name = some b.value := by
  simp only [writtenBindings, List.mem_filterMap, Option.bind_eq_some_iff, Option.map_eq_some_iff]
  constructor
  · rintro ⟨s, hs, p, hp, value, hvalue, rfl⟩
    rw [Segment.eq_of_soleParameter? hp] at hs
    exact ⟨p, hs, rfl, hvalue⟩
  · rintro ⟨p, hp, hname, hvalue⟩
    exact ⟨_, hp, p, rfl, b.value, hvalue, by rw [hname]⟩

theorem writtenBindings_sublist (segments : List Segment) :
    ((r.writtenBindings accepted segments).map Binding.key).Sublist
      ((segments.flatMap Segment.parameters).map (fold ·.name)) := by
  induction segments with
  | nil => exact List.Sublist.refl _
  | cons s segments ih =>
    rw [List.flatMap_cons, List.map_append, writtenBindings, List.filterMap_cons]
    cases hs : Segment.soleParameter? s with
    | none => exact ih.trans (List.sublist_append_right _ _)
    | some p =>
      rw [Segment.eq_of_soleParameter? hs, Option.bind_some]
      cases r.valueOf? accepted p.name with
      | none => exact ih.cons _
      | some value => exact ih.cons_cons _

/-- No parameter is written twice. -/
theorem Layout.writtenBindings_nodup (h : r.Layout accepted front back kept)
    (hsound : r.template.Sound) : ((r.writtenBindings accepted front).map Binding.key).Nodup := by
  refine ((writtenBindings_sublist front).trans ?_).nodup hsound.names
  rw [Template.parameters, h.segments, List.flatMap_append, List.map_append]
  exact List.sublist_append_left _ _

/-- What was written is read back. -/
theorem Layout.recovered_of_mem (h : r.Layout accepted front back kept)
    (hsound : r.template.Sound) {b : Binding} (hb : b ∈ r.writtenBindings accepted front) :
    (r.recovered accepted front).get? b.name = some b.value := by
  rw [recovered, Bindings.get?_withDefaults,
    Bindings.get?_insertAll_of_mem (h.writtenBindings_nodup hsound) hb, Option.some_or]

/-- Where nothing was written, the default is read. -/
theorem recovered_of_notMem {name : String}
    (h : ∀ b ∈ r.writtenBindings accepted front, fold b.name ≠ fold name) :
    (r.recovered accepted front).get? name = r.defaults.get? name := by
  rw [recovered, Bindings.get?_withDefaults, Bindings.get?_insertAll_eq_none h, Bindings.get?_empty,
    Option.none_or]

theorem isParameter_of_mem {p : Parameter} (hp : [.parameter p] ∈ r.template.segments) :
    r.IsParameter p.name := ⟨p, Segment.mem_flatMap_parameters hp, rfl⟩

theorem exists_segment (hsole : ∀ s ∈ r.template.segments, s.length = 1) {p : Parameter}
    (hp : p ∈ r.template.parameters) : [.parameter p] ∈ r.template.segments := by
  obtain ⟨s, hs, hps⟩ := List.mem_flatMap.1 hp
  obtain ⟨part, rfl⟩ := List.length_eq_one_iff.1 (hsole s hs)
  cases part with
  | literal text => cases hps
  | parameter q =>
    obtain rfl := List.mem_singleton.1 hps
    exact hs

/-! ### Comparison with the chosen values -/

theorem Chosen.valueOf?_eq (h : r.Chosen accepted) {name value : String}
    (hget : accepted.get? name = some value) : r.valueOf? accepted name = some value := by
  rw [valueOf?, Bindings.nonEmpty?_eq_some.2 ⟨hget, h.nonEmpty hget⟩, Option.some_or]

/-- A value that is written is the chosen one or else the default. -/
theorem Chosen.combined_of_valueOf? (h : r.Chosen accepted) {name value : String}
    (hvalue : r.valueOf? accepted name = some value) :
    (accepted.withDefaults r.defaults).get? name = some value := by
  rw [Bindings.get?_withDefaults]
  cases hget : accepted.get? name with
  | some chosen =>
    rw [h.valueOf?_eq hget] at hvalue
    exact hvalue
  | none =>
    rw [valueOf?, Option.or_eq_some_iff] at hvalue
    rcases hvalue with hvalue | ⟨-, hvalue⟩
    · rw [Bindings.nonEmpty?_eq_some, hget] at hvalue
      cases hvalue.1
    · exact (Bindings.nonEmpty?_eq_some.1 hvalue).1

/-- A chosen value of a parameter is written, or it is left out since it is the default. -/
theorem Layout.written_or_default (h : r.Layout accepted front back kept)
    (hsole : ∀ s ∈ r.template.segments, s.length = 1) (hchosen : r.Chosen accepted)
    {name value : String} (hparameter : r.IsParameter name)
    (hget : accepted.get? name = some value) :
    (∃ b ∈ r.writtenBindings accepted front, fold b.name = fold name) ∨
      ∃ given, r.defaults.get? name = some given ∧ sameText given value := by
  obtain ⟨p, hp, hname⟩ := hparameter
  have hvalue : r.valueOf? accepted p.name = some value :=
    hchosen.valueOf?_eq ((accepted.get?_congr hname).trans hget)
  have hsegment := exists_segment hsole hp
  rw [h.segments, List.mem_append] at hsegment
  rcases hsegment with hfront | hback
  · exact Or.inl ⟨⟨p.name, value⟩, mem_writtenBindings.2 ⟨p, hfront, rfl, hvalue⟩, hname⟩
  · obtain ⟨w, hw, helidable⟩ := h.leftOut _ hback
    cases hw with
    | value _ value' hvalue' =>
      obtain rfl := Option.some.inj (hvalue.symm.trans hvalue')
      obtain ⟨given, hgiven, hsame⟩ := Option.any_eq_true .. |>.1 helidable
      exact Or.inr ⟨given, (r.defaults.get?_congr hname).symm.trans hgiven, hsame⟩
    | absent _ hnone =>
      rw [hvalue] at hnone
      cases hnone

/-- What is read back for a name is the chosen value, up to case if the name has a default. -/
theorem Layout.recovered_agrees (h : r.Layout accepted front back kept) (hsound : r.template.Sound)
    (hsole : ∀ s ∈ r.template.segments, s.length = 1) (hchosen : r.Chosen accepted)
    {name value : String} (hget : (r.recovered accepted front).get? name = some value) :
    ∃ chosen, (accepted.withDefaults r.defaults).get? name = some chosen ∧
      sameText value chosen ∧ (r.defaults.has name = false → value = chosen) := by
  by_cases hwritten : ∃ b ∈ r.writtenBindings accepted front, fold b.name = fold name
  · obtain ⟨b, hb, hname⟩ := hwritten
    have hvalue : value = b.value := by
      rw [← Bindings.get?_congr _ hname, h.recovered_of_mem hsound hb] at hget
      exact (Option.some.inj hget).symm
    obtain ⟨p, -, hp, hvalueOf⟩ := mem_writtenBindings.1 hb
    have hcombined := hchosen.combined_of_valueOf? hvalueOf
    rw [hp, Bindings.get?_congr _ hname] at hcombined
    refine ⟨b.value, hcombined, ?_, fun _ => hvalue⟩
    rw [hvalue]
    exact sameText_self b.value
  · have hnone : ∀ b ∈ r.writtenBindings accepted front, fold b.name ≠ fold name :=
      fun b hb hname => hwritten ⟨b, hb, hname⟩
    rw [recovered_of_notMem hnone] at hget
    have hdefault : r.defaults.has name := by
      rw [Bindings.has_eq, hget]
      rfl
    rw [Bindings.get?_withDefaults]
    cases hchoice : accepted.get? name with
    | none => exact ⟨value, hget, sameText_self value, fun _ => rfl⟩
    | some chosen =>
      refine ⟨chosen, rfl, ?_, fun hfalse => by rw [hdefault] at hfalse; cases hfalse⟩
      rcases hchosen.others hchoice with hparameter | habsent
      · rcases h.written_or_default hsole hchosen hparameter hchoice with
          hw | ⟨given, hgiven, hsame⟩
        · exact absurd hw hwritten
        · rw [hget] at hgiven
          exact Option.some.inj hgiven ▸ hsame
      · rw [hget] at habsent
        cases habsent

theorem mem_extras {b : Binding} :
    b ∈ r.extras accepted ↔ b ∈ accepted.items ∧ b.value ≠ "" ∧ ¬ r.IsParameter b.name ∧
      ∀ given, r.defaults.get? b.name = some given → sameText given b.value = false := by
  simp [extras, isExtra, IsParameter, and_assoc, Option.all_eq_true]

/-- A binding of the query has no default. -/
theorem Chosen.extras_default (h : r.Chosen accepted) {b : Binding} (hb : b ∈ r.extras accepted) :
    r.defaults.get? b.name = none := by
  obtain ⟨hmem, -, hparameter, -⟩ := mem_extras.1 hb
  exact (h.others (Bindings.get?_of_mem hmem)).resolve_left hparameter

theorem Chosen.extras_agree (h : r.Chosen accepted) {b : Binding} (hb : b ∈ r.extras accepted) :
    (accepted.withDefaults r.defaults).get? b.name = some b.value := by
  rw [Bindings.get?_withDefaults, h.extras_default hb, Option.or_none]
  exact Bindings.get?_of_mem (mem_extras.1 hb).1

/-- What is written as a query is not read off the path. -/
theorem Chosen.extras_notMem (h : r.Chosen accepted) {b : Binding} (hb : b ∈ r.extras accepted)
    (hfront : ∀ p, [.parameter p] ∈ front → p ∈ r.template.parameters) :
    (r.recovered accepted front).get? b.name = none := by
  rw [recovered_of_notMem, h.extras_default hb]
  intro b' hb' hname
  obtain ⟨p, hp, hpname, -⟩ := mem_writtenBindings.1 hb'
  obtain ⟨-, -, hparameter, -⟩ := mem_extras.1 hb
  exact hparameter ⟨p, hfront p hp, by rw [hpname, hname]⟩

/-- Each chosen value and each default is read off the path or written as a query. -/
theorem Layout.recovered_or_extra (h : r.Layout accepted front back kept)
    (hsound : r.template.Sound) (hsole : ∀ s ∈ r.template.segments, s.length = 1)
    (hchosen : r.Chosen accepted) {name : String}
    (hhas : (accepted.withDefaults r.defaults).has name) :
    (r.recovered accepted front).has name ∨ ∃ b ∈ r.extras accepted, fold b.name = fold name := by
  by_cases hwritten : ∃ b ∈ r.writtenBindings accepted front, fold b.name = fold name
  · obtain ⟨b, hb, hname⟩ := hwritten
    left
    rw [Bindings.has_eq, ← Bindings.get?_congr _ hname, h.recovered_of_mem hsound hb]
    rfl
  · have hnone : ∀ b ∈ r.writtenBindings accepted front, fold b.name ≠ fold name :=
      fun b hb hname => hwritten ⟨b, hb, hname⟩
    rw [Bindings.has_eq, recovered_of_notMem hnone]
    cases hdefault : r.defaults.get? name with
    | some given => exact Or.inl rfl
    | none =>
      right
      rw [Bindings.has_eq, Bindings.get?_withDefaults, hdefault, Option.or_none] at hhas
      obtain ⟨value, hvalue⟩ := Option.isSome_iff_exists.1 hhas
      obtain ⟨b, hb, hname, rfl⟩ := Bindings.exists_of_get? hvalue
      refine ⟨b, mem_extras.2 ⟨hb, hchosen.nonEmpty hvalue, fun hparameter => ?_, ?_⟩, hname⟩
      · have hparameter : r.IsParameter name := by
          obtain ⟨p, hp, hpname⟩ := hparameter
          exact ⟨p, hp, hpname.trans hname⟩
        rcases h.written_or_default hsole hchosen hparameter hvalue with hw | ⟨given, hgiven, -⟩
        · exact hwritten hw
        · rw [hdefault] at hgiven
          cases hgiven
      · intro given hgiven
        rw [r.defaults.get?_congr hname, hdefault] at hgiven
        cases hgiven

/-- The names that are read back. -/
def recoveredKeys (r : RoutePattern) (accepted : Bindings) (front : List Segment) : List String :=
  (r.recovered accepted front).items.map Binding.key ++ (r.extras accepted).map Binding.key

theorem Chosen.recoveredKeys_nodup (h : r.Chosen accepted)
    (hfront : ∀ p, [.parameter p] ∈ front → p ∈ r.template.parameters) :
    (r.recoveredKeys accepted front).Nodup := by
  rw [recoveredKeys, List.nodup_append]
  refine ⟨SortedBy.keys_nodup _, ?_, ?_⟩
  · exact ((List.filter_sublist (l := accepted.items)).map _).nodup accepted.keys_nodup
  · rintro k hk _ hk' rfl
    obtain ⟨b, hb, rfl⟩ := List.mem_map.1 hk'
    rw [show b.key = fold b.name from rfl, Bindings.mem_keys, Bindings.has_eq,
      h.extras_notMem hb hfront] at hk
    cases hk

theorem Layout.mem_recoveredKeys (h : r.Layout accepted front back kept)
    (hsound : r.template.Sound) (hsole : ∀ s ∈ r.template.segments, s.length = 1)
    (hchosen : r.Chosen accepted) (k : String) :
    k ∈ r.recoveredKeys accepted front ↔
      k ∈ (accepted.withDefaults r.defaults).items.map Binding.key := by
  rw [recoveredKeys, List.mem_append]
  constructor
  · rintro (hk | hk)
    · obtain ⟨b, hb, rfl⟩ := List.mem_map.1 hk
      obtain ⟨chosen, hcombined, -⟩ :=
        h.recovered_agrees hsound hsole hchosen (Bindings.get?_of_mem hb)
      rw [show b.key = fold b.name from rfl, Bindings.mem_keys, Bindings.has_eq, hcombined]
      rfl
    · obtain ⟨b, hb, rfl⟩ := List.mem_map.1 hk
      rw [show b.key = fold b.name from rfl, Bindings.mem_keys, Bindings.has_eq,
        hchosen.extras_agree hb]
      rfl
  · intro hk
    obtain ⟨b, hb, rfl⟩ := List.mem_map.1 hk
    have hhas : (accepted.withDefaults r.defaults).has b.name :=
      Bindings.mem_keys.1 (List.mem_map_of_mem hb)
    rcases h.recovered_or_extra hsound hsole hchosen hhas with hrecovered | ⟨b', hb', hname⟩
    · exact Or.inl (Bindings.mem_keys.2 hrecovered)
    · exact Or.inr (List.mem_map.2 ⟨b', hb', hname⟩)

/-- **A link carries all of its values**: if a pattern whose segments have one part each is written
with the values chosen for a link, then the path of the link fits the pattern, and the values that
it gives have, together with the pairs of the query, the names of the chosen values and defaults,
none of them twice. The values are the chosen ones, up to case where a name has a default. -/
theorem carries_values {text : String} (hparse : Template.parse text = .ok r.template)
    (hsole : ∀ s ∈ r.template.segments, s.length = 1) {ambient asked : Bindings} {sel : Selection}
    (hselect : r.select? ambient asked = some sel) {url : String}
    (hwrite : r.write? sel.accepted = some url)
    (hpieces : r.PiecesNonEmpty sel.accepted r.template.segments) :
    ∃ vs, r.fit? (.ofString (linkPath url)) = some vs ∧
      ((vs.toPairs ++ linkPairs url).map fun pair => fold pair.1).Nodup ∧
      (∀ k, k ∈ (vs.toPairs ++ linkPairs url).map (fun pair => fold pair.1) ↔
        k ∈ sel.combined.items.map Binding.key) ∧
      ∀ pair ∈ vs.toPairs ++ linkPairs url, ∃ chosen, sel.combined.get? pair.1 = some chosen ∧
        sameText pair.2 chosen ∧ (r.defaults.has pair.1 = false → pair.2 = chosen) := by
  have hsound := parameters_of_parse hparse
  obtain ⟨hchosen, hcombined⟩ := chosen_of_select? hselect
  obtain ⟨front, back, kept, hlayout, hurl⟩ := layout_of_write? hsole hwrite
  have hurl : url = withQuery (pathOf kept) (r.extras sel.accepted) := hurl
  have hfront : ∀ p, [.parameter p] ∈ front → p ∈ r.template.parameters := by
    intro p hp
    refine List.mem_flatMap.2 ⟨[.parameter p], ?_, List.mem_singleton_self p⟩
    rw [hlayout.segments]
    exact List.mem_append_left _ hp
  rw [hurl, linkPath_withQuery hlayout.notMem_pathOf, linkPairs_withQuery hlayout.notMem_pathOf,
    hcombined]
  have hkeys : ((r.recovered sel.accepted front).toPairs ++
      (r.extras sel.accepted).map fun b => (b.name, b.value)).map (fun pair => fold pair.1) =
        r.recoveredKeys sel.accepted front := by
    rw [List.map_append, Bindings.toPairs, List.map_map, List.map_map]
    rfl
  refine ⟨r.recovered sel.accepted front, hlayout.fit? hsound.catchAll hpieces, ?_, ?_, ?_⟩
  · rw [hkeys]
    exact hchosen.recoveredKeys_nodup hfront
  · rw [hkeys]
    exact hlayout.mem_recoveredKeys hsound hsole hchosen
  · intro pair hpair
    rcases List.mem_append.1 hpair with hpair | hpair
    · obtain ⟨b, hb, rfl⟩ := List.mem_map.1 hpair
      exact hlayout.recovered_agrees hsound hsole hchosen (Bindings.get?_of_mem hb)
    · obtain ⟨b, hb, rfl⟩ := List.mem_map.1 hpair
      exact ⟨b.value, hchosen.extras_agree hb, sameText_self b.value, fun _ => rfl⟩

/-- The pattern of `/a/{b=x}/{*c}`. -/
def sample : RoutePattern := .ofTemplate Trie.sampleTemplate .empty

/-- Values for `sample`, one of which has no parameter. -/
def sampleValues : Bindings := .ofPairs [("b", "X"), ("c", "p/q"), ("k", "v w")]

/-- A default in front of a catch-all is written, and a value without a parameter becomes a
query. -/
theorem carries_values_sample :
    ∃ sel vs, sample.select? .empty sampleValues = some sel ∧
      sample.write? sel.accepted = some "/a/X/p/q?k=v%20w" ∧
      sample.fit? (.ofString (linkPath "/a/X/p/q?k=v%20w")) = some vs ∧
      ((vs.toPairs ++ linkPairs "/a/X/p/q?k=v%20w").map fun pair => fold pair.1).Nodup := by
  have hwrite : (sample.select? .empty sampleValues).bind (fun sel => sample.write? sel.accepted) =
      some "/a/X/p/q?k=v%20w" := by decide +kernel
  have hvalue : (sample.select? .empty sampleValues).bind
      (fun sel => sample.valueOf? sel.accepted "c") = some "p/q" := by decide +kernel
  obtain ⟨sel, hselect, hwrite⟩ := Option.bind_eq_some_iff.1 hwrite
  rw [hselect, Option.bind_some] at hvalue
  have hpieces : sample.PiecesNonEmpty sel.accepted sample.template.segments := by
    rintro p (_ | ⟨_, _ | ⟨_, _ | ⟨_, ⟨⟩⟩⟩⟩) hcatch value hgiven -
    · cases hcatch
    · obtain rfl := Option.some.inj (hvalue.symm.trans hgiven)
      decide
  obtain ⟨vs, hfit, hnodup, -⟩ :=
    carries_values Trie.parse_sampleTemplate (by decide) hselect hwrite hpieces
  exact ⟨sel, vs, hselect, hwrite, hfit, hnodup⟩

end RoutePattern

end UrlRouting

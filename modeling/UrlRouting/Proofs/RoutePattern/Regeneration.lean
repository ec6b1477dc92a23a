import UrlRouting.Proofs.RoutePattern.Choice
import UrlRouting.Proofs.RoutePattern.RoundTrip
import UrlRouting.Proofs.Template.Parts
import UrlRouting.Proofs.UrlPath.NormalForm

/-!
# A path that fits can be written again

In a path that fits a pattern the first segments take a piece each and the others go without one
(`ReadOff`). The values that are read off it are chosen for a link, be they asked for or be they
the values of the current request, and the link fits the pattern with these values
(`regenerates_path`). The path need not be the link: it may have more slashes and other escapes,
and the link leaves defaults out at its end.
-/

namespace UrlRouting

open Text UrlPath

namespace RoutePattern

variable {r : RoutePattern} {vs accepted : Bindings} {front back : List Segment} {name : String}

/-! ### Values that are read off a path -/

/-- How the segments of a pattern stand in a path that fits it: those in front have taken a piece
each, and those at the back go without one. -/
structure ReadOff (r : RoutePattern) (vs : Bindings) (front back : List Segment) : Prop where
  /-- The segments fall into two portions. -/
  segments : r.template.segments = front ++ back
  /-- A parameter in front has a value. -/
  taken : ∀ p, [.parameter p] ∈ front → ∃ value, vs.get? p.name = some value ∧ value ≠ ""
  /-- The segments at the back can go without a piece. -/
  leftOut : ∀ s ∈ back, r.bindsWithoutPiece s
  /-- A parameter at the back has its default. -/
  untouched : ∀ p, [.parameter p] ∈ back → vs.get? p.name = r.defaults.get? p.name
  /-- So has a name that is no parameter. -/
  others : ∀ {name : String}, ¬ r.IsParameter name → vs.get? name = r.defaults.get? name

/-- Some segments bind a value to each of their parameters, and nothing else. -/
structure Binds (vs vs' : Bindings) (segments : List Segment) : Prop where
  /-- Each parameter has a value, which is not empty. -/
  value : ∀ p, [.parameter p] ∈ segments → ∃ value, vs'.get? p.name = some value ∧ value ≠ ""
  /-- Other names are as they were. -/
  others : ∀ {name : String}, (∀ p, [.parameter p] ∈ segments → fold p.name ≠ fold name) →
    vs'.get? name = vs.get? name

namespace Binds

variable {vs' : Bindings} {segments : List Segment}

theorem nil (vs : Bindings) : Binds vs vs [] := ⟨nofun, fun _ => rfl⟩

theorem literal (h : Binds vs vs' segments) (text : String) :
    Binds vs vs' ([.literal text] :: segments) where
  value p hp := h.value p (List.mem_of_ne_of_mem (by simp) hp)
  others hname := h.others fun p hp => hname p (List.mem_cons_of_mem _ hp)

/-- A parameter binds its value, which is not replaced if its name does not come again. -/
theorem parameter {p : Parameter} {value : String} (hvalue : value ≠ "")
    (hnew : ∀ q, [.parameter q] ∈ segments → fold q.name ≠ fold p.name)
    (h : Binds (vs.bind p.name value) vs' segments) :
    Binds vs vs' ([.parameter p] :: segments) where
  value := by
    intro q hq
    rcases List.mem_cons.1 hq with heq | hq
    · obtain rfl : q = p := by simpa using heq
      refine ⟨value, ?_, hvalue⟩
      rw [h.others hnew, Bindings.get?_bind, if_pos rfl]
    · exact h.value q hq
  others := by
    intro name hname
    rw [h.others fun q hq => hname q (List.mem_cons_of_mem _ hq), Bindings.get?_bind,
      if_neg (hname p List.mem_cons_self)]

end Binds

/-- Segments that fit some pieces bind the parameters up to the last segment that takes a piece, and
the segments behind it can go without one. -/
theorem exists_binds_of_fitSegments {segments : List Segment} {pieces : List String}
    {vs' : Bindings} (hsole : ∀ s ∈ segments, s.length = 1) (hlast : CatchAllLast segments)
    (hnodup : ((segments.flatMap Segment.parameters).map (fold ·.name)).Nodup)
    (hpieces : ∀ piece ∈ pieces, piece ≠ "")
    (h : r.fitSegments vs segments pieces = some vs') :
    ∃ front back, segments = front ++ back ∧ (∀ s ∈ back, r.bindsWithoutPiece s) ∧
      Binds vs vs' front := by
  induction segments generalizing vs pieces with
  | nil =>
    obtain rfl := Option.some.inj h
    exact ⟨[], [], rfl, List.forall_mem_nil _, .nil vs⟩
  | cons s segments ih =>
    cases pieces with
    | nil =>
      -- nothing is left to take, so all segments stand at the back
      have hfits : r.fits (s :: segments) [] := by
        rw [← isSome_fitSegments vs, h]
        rfl
      have hback := List.all_eq_true.1 hfits
      rw [fitSegments_nil hback] at h
      obtain rfl := Option.some.inj h
      exact ⟨[], s :: segments, rfl, hback, .nil vs⟩
    | cons piece pieces =>
      rw [List.forall_mem_cons] at hpieces
      obtain ⟨part, rfl⟩ := List.length_eq_one_iff.1 (hsole s List.mem_cons_self)
      have ih {vs : Bindings} (h : r.fitSegments vs segments pieces = some vs') :=
        ih (fun s hs => hsole s (List.mem_cons_of_mem _ hs)) hlast.tail
          (hnodup.sublist (List.Sublist.map _ (List.sublist_append_right _ _))) hpieces.2 h
      cases part with
      | literal text =>
        rw [fitSegments] at h
        split at h
        · obtain ⟨front, back, rfl, hback, hbinds⟩ := ih h
          exact ⟨[.literal text] :: front, back, rfl, hback, hbinds.literal text⟩
        · cases h
      | parameter p =>
        rw [fitSegments] at h
        split at h
        next hcatchAll =>
          obtain rfl := hlast.eq_nil rfl hcatchAll
          obtain rfl := Option.some.inj h
          have hnew : ∀ q, [.parameter q] ∈ ([] : List Segment) → fold q.name ≠ fold p.name :=
            fun q hq => absurd hq List.not_mem_nil
          exact ⟨[[.parameter p]], [], rfl, List.forall_mem_nil _,
            .parameter (intercalate_ne_empty hpieces.1 pieces) hnew (.nil _)⟩
        next =>
          obtain ⟨front, back, rfl, hback, hbinds⟩ := ih h
          refine ⟨[.parameter p] :: front, back, rfl, hback, hbinds.parameter hpieces.1 ?_⟩
          intro q hq
          have hfirst : ([.parameter p] : Segment) ∈ [[.parameter p]] := List.mem_singleton_self _
          exact (Segment.fold_ne_of_append hnodup hfirst (List.mem_append_left _ hq)).symm

/-- The values of a path that fits are read off it. -/
theorem exists_readOff_of_fit? {path : String} (hsound : r.template.Sound)
    (hsole : ∀ s ∈ r.template.segments, s.length = 1)
    (hfit : r.fit? (.ofString path) = some vs) : ∃ front back, r.ReadOff vs front back := by
  rw [fit?] at hfit
  split at hfit
  · cases hfit
  obtain ⟨vs₀, hbound, rfl⟩ := Option.map_eq_some_iff.1 hfit
  obtain ⟨front, back, hsegments, hback, hbinds⟩ := exists_binds_of_fitSegments hsole
    hsound.catchAll hsound.names (fun piece hp => ne_empty_of_mem_pieces hp) hbound
  have hdefault {name : String} (hname : ∀ p, [.parameter p] ∈ front → fold p.name ≠ fold name) :
      (vs₀.withDefaults r.defaults).get? name = r.defaults.get? name := by
    rw [Bindings.get?_withDefaults, hbinds.others hname, Bindings.get?_empty, Option.none_or]
  refine ⟨front, back, hsegments, fun p hp => ?_, hback, fun p hp => ?_, fun hname => ?_⟩
  · obtain ⟨value, hget, hne⟩ := hbinds.value p hp
    exact ⟨value, by rw [Bindings.get?_withDefaults, hget, Option.some_or], hne⟩
  · apply hdefault
    intro q hq
    have hnames := hsound.names
    rw [Template.parameters, hsegments] at hnames
    exact Segment.fold_ne_of_append hnames hq hp
  · apply hdefault
    intro p hp hfold
    have hsegment : [.parameter p] ∈ r.template.segments := by
      rw [hsegments]
      exact List.mem_append_left _ hp
    exact hname ⟨p, Segment.mem_flatMap_parameters hsegment, hfold⟩

/-! ### They are chosen -/

/-- The values that are chosen out of `vs`: those of the parameters. -/
structure ChosenFrom (r : RoutePattern) (vs accepted : Bindings) : Prop where
  /-- A parameter has its value, unless it is empty. -/
  parameter : ∀ {name : String}, r.IsParameter name → accepted.get? name = vs.nonEmpty? name
  /-- No other name has a value. -/
  other : ∀ {name : String}, ¬ r.IsParameter name → accepted.get? name = none

/-- As long as nothing is asked for, the current values are chosen as if they were asked for. -/
theorem acceptParameters_ambient (vs accepted : Bindings) (usable : Bool) (ps : List Parameter) :
    acceptParameters vs .empty true accepted ps = acceptParameters .empty vs usable accepted ps := by
  induction ps generalizing usable accepted with
  | nil => rfl
  | cons p ps ih =>
    have hchosen : chosen? vs .empty true p.name = chosen? .empty vs usable p.name := by
      have hempty : Bindings.nonEmpty? .empty p.name = none := rfl
      simp [chosen?, inherited?, hempty, Bindings.has_eq, Bindings.get?_empty]
    rw [acceptParameters_cons, acceptParameters_cons, hchosen, Bool.true_and]
    exact ih _ _

/-- Values that have no parameter are left alone if they are the defaults of their names. -/
theorem acceptOthers_of_defaults {bs : List Binding}
    (h : ∀ b ∈ bs, r.IsParameter b.name ∨ r.defaults.get? b.name = some b.value) :
    r.acceptOthers accepted bs = some accepted := by
  have hcontradicts : bs.any r.contradicts = false := by
    rw [List.any_eq_false]
    intro b hb hcontradicts
    obtain ⟨-, hname, given, hgiven, hdiffers⟩ := contradicts_iff.1 hcontradicts
    rw [(h b hb).resolve_left hname] at hgiven
    cases hgiven
    rw [sameText_self] at hdiffers
    cases hdiffers
  have hother : bs.filter r.isOther = [] := by
    rw [List.filter_eq_nil_iff]
    intro b hb hother
    obtain ⟨-, hname, hdefault⟩ := isOther_iff.1 hother
    rw [(h b hb).resolve_left hname] at hdefault
    cases hdefault
  rw [acceptOthers_eq, hcontradicts, hother]
  rfl

namespace ReadOff

theorem isProvided (h : r.ReadOff vs front back) (hsole : ∀ s ∈ r.template.segments, s.length = 1)
    (haccepted : ∀ {name : String}, r.IsParameter name → accepted.get? name = vs.nonEmpty? name)
    {p : Parameter} (hp : p ∈ r.template.parameters) : r.isProvided accepted p := by
  have hsegment := exists_segment hsole hp
  rw [h.segments, List.mem_append] at hsegment
  rw [RoutePattern.isProvided]
  rcases hsegment with hfront | hback
  · obtain ⟨value, hget, hne⟩ := h.taken p hfront
    have hhas : accepted.has p.name := by
      rw [Bindings.has_eq, haccepted ⟨p, hp, rfl⟩, Bindings.nonEmpty?_eq_some.2 ⟨hget, hne⟩]
      rfl
    simp [hhas]
  · have hleft := h.leftOut _ hback
    simp only [bindsWithoutPiece, Segment.soleParameter?, Bool.or_eq_true] at hleft
    rcases hleft with (hoptional | hcatchAll) | hdefault
    · simp [hoptional]
    · simp [hcatchAll]
    · simp [hdefault]

/-- Values that are read off a path are chosen for a link, whether they are asked for or are those
of the current request. -/
theorem exists_select? (h : r.ReadOff vs front back)
    (hsole : ∀ s ∈ r.template.segments, s.length = 1) :
    ∃ sel, r.select? .empty vs = some sel ∧ r.select? vs .empty = some sel ∧
      r.ChosenFrom vs sel.accepted := by
  let accepted := acceptParameters .empty vs true .empty r.template.parameters
  have hparameter {name : String} (hname : r.IsParameter name) :
      accepted.get? name = vs.nonEmpty? name := by
    have hempty : inherited? .empty vs name = none := by
      rw [inherited?]
      exact ite_self _
    rw [get?_acceptParameters hname, chosen?, hempty, ite_self, Option.or_none, Bindings.get?_empty,
      Option.or_none]
  have hother {name : String} (hname : ¬ r.IsParameter name) : accepted.get? name = none :=
    get?_acceptParameters_of_ne fun p hp hfold => hname ⟨p, hp, hfold⟩
  have hdefaults : ∀ b ∈ vs.items, r.IsParameter b.name ∨ r.defaults.get? b.name = some b.value := by
    intro b hb
    by_cases hname : r.IsParameter b.name
    · exact Or.inl hname
    · rw [← h.others hname]
      exact Or.inr (Bindings.get?_of_mem hb)
  have hprovided : r.template.parameters.all (r.isProvided accepted) :=
    List.all_eq_true.2 fun p hp => h.isProvided hsole hparameter hp
  refine ⟨{ accepted, combined := accepted.withDefaults r.defaults }, ?_, ?_, hparameter, hother⟩
  · rw [select?, acceptOthers_of_defaults hdefaults]
    exact if_pos hprovided
  · rw [select?, acceptParameters_ambient _ _ true]
    exact if_pos hprovided

/-- With the defaults, the chosen values are those that were read. -/
theorem get?_withDefaults (h : r.ReadOff vs front back)
    (hsole : ∀ s ∈ r.template.segments, s.length = 1) (hchosen : r.ChosenFrom vs accepted)
    (name : String) : (accepted.withDefaults r.defaults).get? name = vs.get? name := by
  rw [Bindings.get?_withDefaults]
  by_cases hname : r.IsParameter name
  · rw [hchosen.parameter hname]
    obtain ⟨p, hp, hfold⟩ := hname
    have hsegment := exists_segment hsole hp
    rw [h.segments, List.mem_append] at hsegment
    rw [Bindings.nonEmpty?, ← vs.get?_congr hfold, ← r.defaults.get?_congr hfold]
    rcases hsegment with hfront | hback
    · obtain ⟨value, hget, hne⟩ := h.taken p hfront
      simp [hget, hne]
    · rw [h.untouched p hback]
      cases r.defaults.get? p.name with
      | none => rfl
      | some value => by_cases hempty : value = "" <;> simp [Option.filter, hempty]
  · rw [hchosen.other hname, h.others hname, Option.none_or]

end ReadOff

/-! ### They are written -/

/-- The value of a parameter that is written is the one that was read, or else the default. -/
theorem ChosenFrom.valueOf? (h : r.ChosenFrom vs accepted) (hname : r.IsParameter name) :
    r.valueOf? accepted name = r.valueOf? vs name := by
  rw [RoutePattern.valueOf?, RoutePattern.valueOf?]
  congr 1
  rw [Bindings.nonEmpty?, h.parameter hname, Bindings.nonEmpty?, Option.filter_filter]
  simp

/-- Segments are written if each of them is. -/
theorem exists_writeSegments? {P : WrittenSegment → Prop} {segments : List Segment}
    (h : ∀ s ∈ segments, ∃ w, r.writeSegment? accepted s = some w ∧ P w) :
    ∃ ws, r.writeSegments? accepted segments = some ws ∧ ∀ w ∈ ws, P w := by
  induction segments with
  | nil => exact ⟨[], rfl, nofun⟩
  | cons s segments ih =>
    rw [List.forall_mem_cons] at h
    obtain ⟨w, hw, hP⟩ := h.1
    obtain ⟨ws, hws, hPs⟩ := ih h.2
    exact ⟨w :: ws, by rw [writeSegments?, hw, hws], List.forall_mem_cons.2 ⟨hP, hPs⟩⟩

theorem writeSegments?_append {ws ws' : List WrittenSegment}
    (hfront : r.writeSegments? accepted front = some ws)
    (hback : r.writeSegments? accepted back = some ws') :
    r.writeSegments? accepted (front ++ back) = some (ws ++ ws') := by
  induction front generalizing ws with
  | nil =>
    obtain rfl := Option.some.inj hfront
    exact hback
  | cons s front ih =>
    rw [writeSegments?] at hfront
    split at hfront
    next w others hw hothers =>
      obtain rfl := Option.some.inj hfront
      rw [List.cons_append, writeSegments?, hw, ih hothers]
      rfl
    next => cases hfront

theorem dropElidable_append {ws ws' : List WrittenSegment} (h : ∀ w ∈ ws', w.elidable) :
    dropElidable (ws ++ ws') = dropElidable ws := by
  rw [dropElidable, dropElidable, List.reverse_append,
    List.dropWhile_append_of_pos fun w hw => h w (List.mem_reverse.1 hw)]

/-- Segments are written as a link if something is written for each in front, and those at the back
may be left out. -/
theorem exists_write? (hsegments : r.template.segments = front ++ back)
    (hfront : ∀ s ∈ front, ∃ w, r.writeSegment? accepted s = some w ∧ w.text ≠ "")
    (hback : ∀ s ∈ back, ∃ w, r.writeSegment? accepted s = some w ∧ w.elidable) :
    ∃ url, r.write? accepted = some url := by
  obtain ⟨ws, hws, htext⟩ := exists_writeSegments? hfront
  obtain ⟨ws', hws', helidable⟩ := exists_writeSegments? hback
  have htexts : ((dropElidable ws).map (·.text)).any (·.isEmpty) = false := by
    rw [List.any_eq_false]
    intro text hmem
    obtain ⟨w, hw, rfl⟩ := List.mem_map.1 hmem
    simpa using htext w (dropElidable_subset ws hw)
  rw [write?, hsegments, writeSegments?_append hws hws']
  dsimp only
  rw [dropElidable_append helidable, htexts]
  exact ⟨_, rfl⟩

theorem encodePieces_ne_empty {value : String} (h : value ≠ "") : encodePieces value ≠ "" := by
  intro hempty
  have hlist := toList_encodePieces value
  have hvalue := intercalate_pieces value
  rw [hempty] at hlist
  cases hsplit : value.toList.splitOn '/' with
  | nil => exact List.splitOn_ne_nil _ _ hsplit
  | cons piece pieces =>
    rw [hsplit] at hlist hvalue
    cases pieces with
    | nil =>
      have hpiece : String.ofList piece = value := by simpa using hvalue
      have hwritten : percentEncode .segment value = "" := by simpa [hpiece] using hlist
      exact h (percentEncode_eq_empty.1 hwritten)
    | cons piece' pieces => simp at hlist

namespace ReadOff

variable (h : r.ReadOff vs front back) (hsole : ∀ s ∈ r.template.segments, s.length = 1)
  (hchosen : r.ChosenFrom vs accepted)

include h hsole hchosen

/-- Something is written for a segment that has taken a piece. -/
theorem writeSegment?_front (hspaced : ∀ s ∈ r.template.segments, s.Spaced) {s : Segment}
    (hs : s ∈ front) : ∃ w, r.writeSegment? accepted s = some w ∧ w.text ≠ "" := by
  have hmem : s ∈ r.template.segments := by
    rw [h.segments]
    exact List.mem_append_left _ hs
  obtain ⟨part, rfl⟩ := List.length_eq_one_iff.1 (hsole s hmem)
  cases part with
  | literal text =>
    have hne : text ≠ "" := (hspaced _ hmem).literals text List.mem_cons_self
    refine ⟨{ text := percentEncode .segment text, elidable := false }, ?_, ?_⟩
    · simp [writeSegment?, Segment.soleParameter?, writeParts?, writePart?]
    · exact fun hempty => hne (percentEncode_eq_empty.1 hempty)
  | parameter p =>
    obtain ⟨value, hget, hne⟩ := h.taken p hs
    have hvalue : r.valueOf? accepted p.name = some value := by
      rw [hchosen.valueOf? (isParameter_of_mem hmem), valueOf?, Bindings.nonEmpty?_eq_some.2 ⟨hget, hne⟩,
        Option.some_or]
    rw [writeSegment?]
    simp only [Segment.soleParameter?, hvalue]
    refine ⟨_, rfl, ?_⟩
    dsimp only
    split
    · exact encodePieces_ne_empty hne
    · exact fun hempty => hne (percentEncode_eq_empty.1 hempty)

/-- A segment that has gone without a piece may be left out. -/
theorem writeSegment?_back (hdefaults : ∀ p ∈ r.template.parameters,
      r.defaults.get? p.name ≠ some "") {s : Segment} (hs : s ∈ back) :
    ∃ w, r.writeSegment? accepted s = some w ∧ w.elidable := by
  have hmem : s ∈ r.template.segments := by
    rw [h.segments]
    exact List.mem_append_right _ hs
  have hleft := h.leftOut s hs
  obtain ⟨part, rfl⟩ := List.length_eq_one_iff.1 (hsole s hmem)
  cases part with
  | literal text => cases hleft
  | parameter p =>
    have hp : p ∈ r.template.parameters := Segment.mem_flatMap_parameters hmem
    have hvalue : r.valueOf? accepted p.name = r.defaults.nonEmpty? p.name := by
      rw [hchosen.valueOf? ⟨p, hp, rfl⟩, valueOf?, Bindings.nonEmpty?, Bindings.nonEmpty?,
        h.untouched p hs, Option.or_self]
    rw [writeSegment?]
    simp only [Segment.soleParameter?, hvalue]
    cases hdefault : r.defaults.get? p.name with
    | none =>
      have hneeds : (p.isOptional || p.isCatchAll) = true := by
        simpa [bindsWithoutPiece, Segment.soleParameter?, Bindings.has_eq, hdefault] using hleft
      simp [Bindings.nonEmpty?, hdefault, hneeds]
    | some value =>
      have hne : value ≠ "" := fun hempty => hdefaults p hp (hempty ▸ hdefault)
      simp [Bindings.nonEmpty?_eq_some.2 ⟨hdefault, hne⟩, sameText_self]

end ReadOff

/-- Values out of which only those of parameters are chosen give no query. -/
theorem ChosenFrom.extras_eq_nil (h : r.ChosenFrom vs accepted) : r.extras accepted = [] := by
  apply List.eq_nil_iff_forall_not_mem.2
  intro b hb
  obtain ⟨hmem, -, hname, -⟩ := mem_extras.1 hb
  have hget := Bindings.get?_of_mem hmem
  rw [h.other hname] at hget
  cases hget

/-- **A path that fits can be written again**: the values that a pattern whose segments have one
part each reads off a path are chosen for a link, whether they are asked for or are those of the
current request, and the link that is written with them has no query and fits the pattern with
these values, up to case where a name has a default. -/
theorem regenerates_path {text : String} (hparse : Template.parse text = .ok r.template)
    (hsole : ∀ s ∈ r.template.segments, s.length = 1)
    (hdefaults : ∀ p ∈ r.template.parameters, r.defaults.get? p.name ≠ some "") {path : String}
    (hfit : r.fit? (.ofString path) = some vs) (hpieces : r.PiecesNonEmpty vs r.template.segments) :
    ∃ sel url vs', r.select? .empty vs = some sel ∧ r.select? vs .empty = some sel ∧
      r.write? sel.accepted = some url ∧ '?' ∉ url.toList ∧ r.fit? (.ofString url) = some vs' ∧
      (∀ name, vs'.has name = vs.has name) ∧
      ∀ name value', vs'.get? name = some value' → ∃ value, vs.get? name = some value ∧
        sameText value' value ∧ (r.defaults.has name = false → value' = value) := by
  have hsound := parameters_of_parse hparse
  obtain ⟨front, back, hread⟩ := exists_readOff_of_fit? hsound hsole hfit
  obtain ⟨sel, hasked, hambient, hfrom⟩ := hread.exists_select? hsole
  obtain ⟨hchosen, -⟩ := chosen_of_select? hasked
  obtain ⟨url, hwrite⟩ := exists_write? hread.segments
    (fun s hs => hread.writeSegment?_front hsole hfrom (spaced_of_parse hparse) hs)
    (fun s hs => hread.writeSegment?_back hsole hfrom hdefaults hs)
  obtain ⟨front', back', kept, hlayout, hurl⟩ := layout_of_write? hsole hwrite
  have hurl : url = pathOf kept := by
    rw [hurl, hfrom.extras_eq_nil]
    exact String.append_empty
  have hpieces : r.PiecesNonEmpty sel.accepted r.template.segments := by
    intro p hp hcatchAll value hvalue
    rw [hfrom.valueOf? (isParameter_of_mem hp)] at hvalue
    exact hpieces p hp hcatchAll value hvalue
  have hcombined := hread.get?_withDefaults hsole hfrom
  refine ⟨sel, url, r.recovered sel.accepted front', hasked, hambient, hwrite, ?_, ?_, ?_, ?_⟩
  · rw [hurl]
    exact hlayout.notMem_pathOf
  · rw [hurl]
    exact hlayout.fit? hsound.catchAll hpieces
  · intro name
    have hkeys := hlayout.mem_recoveredKeys hsound hsole hchosen (fold name)
    rw [recoveredKeys, hfrom.extras_eq_nil, List.map_nil, List.append_nil, Bindings.mem_keys,
      Bindings.mem_keys] at hkeys
    rw [Bool.eq_iff_iff, hkeys, Bindings.has_eq, Bindings.has_eq, hcombined]
  · intro name value' hget
    rw [← hcombined]
    exact hlayout.recovered_agrees hsound hsole hchosen hget

/-- A path with slashes and escapes that its link does not have is written again, with a default that
is not at the end. -/
theorem regenerates_path_sample :
    ∃ vs sel vs', sample.fit? (.ofString "//A/%58//p%2fq/") = some vs ∧
      sample.select? vs .empty = some sel ∧ sample.write? sel.accepted = some "/a/X/p/q" ∧
      sample.fit? (.ofString "/a/X/p/q") = some vs' ∧ vs'.get? "c" = some "p/q" := by
  have hread : (sample.fit? (.ofString "//A/%58//p%2fq/")).bind (·.get? "c") = some "p/q" := by
    decide +kernel
  obtain ⟨vs, hfit, hc⟩ := Option.bind_eq_some_iff.1 hread
  have hpieces : sample.PiecesNonEmpty vs sample.template.segments := by
    rintro p (_ | ⟨_, _ | ⟨_, _ | ⟨_, ⟨⟩⟩⟩⟩) hcatch value hgiven -
    · cases hcatch
    · have hvalue : sample.valueOf? vs "c" = some "p/q" := by
        rw [valueOf?, Bindings.nonEmpty?_eq_some.2 ⟨hc, by decide⟩, Option.some_or]
      obtain rfl := Option.some.inj (hvalue.symm.trans hgiven)
      decide
  obtain ⟨sel, url, vs', -, hselect, hwrite, -, hfit', hkeys, hvalues⟩ :=
    regenerates_path Trie.parse_sampleTemplate (by decide) (by decide +kernel) hfit hpieces
  have hurl : url = "/a/X/p/q" := by
    have hwritten : ((sample.fit? (.ofString "//A/%58//p%2fq/")).bind fun vs =>
        (sample.select? vs .empty).bind fun sel => sample.write? sel.accepted) =
          some "/a/X/p/q" := by decide +kernel
    rw [hfit, Option.bind_some, hselect, Option.bind_some, hwrite] at hwritten
    exact Option.some.inj hwritten
  subst hurl
  refine ⟨vs, sel, vs', hfit, hselect, hwrite, hfit', ?_⟩
  have hhas : vs'.has "c" := by
    rw [hkeys, Bindings.has_eq, hc]
    rfl
  rw [Bindings.has_eq] at hhas
  obtain ⟨value, hvalue⟩ := Option.isSome_iff_exists.1 hhas
  obtain ⟨read, hread, -, heq⟩ := hvalues "c" value hvalue
  rw [hvalue, heq (by decide +kernel), ← hread, hc]

end RoutePattern

end UrlRouting

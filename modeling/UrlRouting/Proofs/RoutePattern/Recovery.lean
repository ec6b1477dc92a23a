import UrlRouting.Proofs.RoutePattern.RoundTrip
import UrlRouting.Proofs.RoutePattern.SeveralParts

/-!
# Chosen values are recovered

A link that was written from a template without catch-alls and optional parameters fits the
template, and the values that were chosen for its parameters are read back, provided that no literal
recurs in a segment of several parts (`recovers_values`). The proviso is needed: a value may hold
the literal that ends the parameter before it (`misreads_values`), and where all values are read
back no literal recurs (`separated_of_recovered`).
-/

namespace UrlRouting

open Text UrlPath

namespace RoutePattern

variable {r : RoutePattern} {accepted : Bindings}

/-! ### Filled segments are written -/

/-- The value that is written for a parameter. -/
def writtenValue (r : RoutePattern) (accepted : Bindings) (p : Parameter) : String :=
  (r.valueOf? accepted p.name).getD ""

/-- A segment is written with a value in place of each of its parameters, and it may be left out if
it is a parameter whose value is its default. -/
structure WritesFilled (r : RoutePattern) (accepted : Bindings) (s : Segment) (w : WrittenSegment) :
    Prop where
  /-- Each parameter has a value. -/
  values : ∀ p, .parameter p ∈ s → r.valueOf? accepted p.name = some (r.writtenValue accepted p)
  /-- The text is that of the filled segment. -/
  text : w.text = percentEncode .segment (s.filled (r.writtenValue accepted))
  /-- Only defaults are left out. -/
  elidable : w.elidable → ∃ p, s = [.parameter p] ∧ r.isDefault p (r.writtenValue accepted p)

theorem writtenValue_eq {p : Parameter} {value : String}
    (h : r.valueOf? accepted p.name = some value) : r.writtenValue accepted p = value := by
  rw [writtenValue, h, Option.getD_some]

/-- No value that is written is empty. -/
theorem ne_empty_of_valueOf? {name value : String} (h : r.valueOf? accepted name = some value) :
    value ≠ "" := by
  rw [valueOf?, Option.or_eq_some_iff] at h
  rcases h with h | ⟨-, h⟩
  · exact (Bindings.nonEmpty?_eq_some.1 h).2
  · exact (Bindings.nonEmpty?_eq_some.1 h).2

/-- Parts are written with values in place of their parameters. -/
theorem filled_of_writeParts? {parts : List Part} {text : String}
    (h : r.writeParts? accepted parts = some text) :
    (∀ p, .parameter p ∈ parts → r.valueOf? accepted p.name = some (r.writtenValue accepted p)) ∧
    text = percentEncode .segment (Segment.filled (r.writtenValue accepted) parts) := by
  induction parts generalizing text with
  | nil =>
    obtain rfl := Option.some.inj h
    exact ⟨fun _ hp => absurd hp List.not_mem_nil, (percentEncode_eq_empty.2 rfl).symm⟩
  | cons part parts ih =>
    simp only [writeParts?] at h
    split at h
    next front rest hfront hrest =>
      obtain rfl := Option.some.inj h
      obtain ⟨hvalues, rfl⟩ := ih hrest
      rw [Segment.filled_cons, percentEncode_append]
      cases part with
      | literal literal =>
        obtain rfl := Option.some.inj hfront
        exact ⟨fun p hp => hvalues p (List.mem_of_ne_of_mem Part.noConfusion hp), rfl⟩
      | parameter p =>
        obtain ⟨value, hvalue, rfl⟩ := Option.map_eq_some_iff.1 hfront
        rw [Part.filled, writtenValue_eq hvalue]
        refine ⟨fun q hq => ?_, rfl⟩
        rcases List.mem_cons.1 hq with heq | hq
        · cases heq
          rw [writtenValue_eq hvalue, hvalue]
        · exact hvalues q hq
    next => cases h

/-- What is written for a segment: the value of its only parameter, nothing, or the parts of a
segment that is more than a parameter. -/
theorem writeSegment?_cases {s : Segment} {w : WrittenSegment}
    (h : r.writeSegment? accepted s = some w) :
    (∃ p value, s = [.parameter p] ∧ r.valueOf? accepted p.name = some value ∧
      w.text = (if p.isCatchAll then encodePieces value else percentEncode .segment value) ∧
      w.elidable = r.isDefault p value) ∨
    (∃ p, s = [.parameter p] ∧ r.valueOf? accepted p.name = none ∧
      (p.isOptional ∨ p.isCatchAll) ∧ w.text = "" ∧ w.elidable) ∨
    ((∀ p, s ≠ [.parameter p]) ∧
      w.text = percentEncode .segment (s.filled (r.writtenValue accepted)) ∧
      (∀ p, .parameter p ∈ s → r.valueOf? accepted p.name = some (r.writtenValue accepted p)) ∧
      w.elidable = false) := by
  unfold writeSegment? at h
  split at h
  next p hsole =>
    split at h
    next value hvalue =>
      obtain rfl := Option.some.inj h
      exact Or.inl ⟨p, value, Segment.eq_of_soleParameter? hsole, hvalue, rfl, rfl⟩
    next hvalue =>
      split at h
      next hneeds =>
        obtain rfl := Option.some.inj h
        rw [Bool.or_eq_true] at hneeds
        exact Or.inr (Or.inl ⟨p, Segment.eq_of_soleParameter? hsole, hvalue, hneeds, rfl, rfl⟩)
      next => cases h
  next hsole =>
    obtain ⟨text, htext, rfl⟩ := Option.map_eq_some_iff.1 h
    obtain ⟨hvalues, rfl⟩ := filled_of_writeParts? htext
    refine Or.inr (Or.inr ⟨?_, rfl, hvalues, rfl⟩)
    rintro p rfl
    cases hsole

theorem writesFilled_of_writeSegment? {s : Segment} {w : WrittenSegment}
    (hplain : ∀ p, .parameter p ∈ s → p.isCatchAll = false ∧ p.isOptional = false)
    (h : r.writeSegment? accepted s = some w) : r.WritesFilled accepted s w := by
  rcases writeSegment?_cases h with ⟨p, value, rfl, hvalue, htext, helidable⟩ |
    ⟨p, rfl, -, hneeds, -⟩ | ⟨-, htext, hvalues, helidable⟩
  · refine ⟨fun q hq => ?_, ?_, fun hdefault => ⟨p, rfl, ?_⟩⟩
    · cases List.mem_singleton.1 hq
      rw [writtenValue_eq hvalue, hvalue]
    · rw [htext, (hplain p List.mem_cons_self).1, if_neg Bool.false_ne_true,
        Segment.filled_parameter, writtenValue_eq hvalue]
    · rwa [writtenValue_eq hvalue, ← helidable]
  · simp [hplain p List.mem_cons_self] at hneeds
  · exact ⟨hvalues, htext, fun hleft => by simp [helidable] at hleft⟩

theorem WritesFilled.fillable {s : Segment} {w : WrittenSegment}
    (h : r.WritesFilled accepted s w) (hspaced : s.Spaced) :
    s.Fillable (r.writtenValue accepted) where
  literals := hspaced.literals
  apart := hspaced.apart
  values p hp := ne_empty_of_valueOf? (h.values p hp)

/-! ### One segment is read back -/

/-- The bindings that a filled segment is read as. -/
def boundIn (value : Parameter → String) (s : Segment) : List Binding :=
  (Segment.parameters s).reverse.map fun p => ⟨p.name, value p⟩

variable {value : Parameter → String} {s : Segment}

theorem bindFitted_fitted (vs : Bindings) :
    bindFitted vs (s.fitted value) = SortedBy.insertAll (boundIn value s) vs := by
  rw [bindFitted, Segment.fitted, boundIn, SortedBy.insertAll, List.foldl_map, List.foldl_map]
  simp only [String.ofList_toList]
  rfl

/-- A filled segment takes its piece of the path and gives its values. -/
theorem fitSegments_filled (hfillable : s.Fillable value) (hseparated : s.Separated value)
    (hplain : ∀ p, .parameter p ∈ s → p.isCatchAll = false) (vs : Bindings)
    (segments : List Segment) (pieces : List String) :
    r.fitSegments vs (s :: segments) (s.filled value :: pieces) =
      r.fitSegments (SortedBy.insertAll (boundIn value s) vs) segments pieces := by
  match s with
  | [.literal text] =>
    rw [Segment.filled_literal, fitSegments, if_pos (sameText_self text)]
    rfl
  | [.parameter p] =>
    rw [Segment.filled_parameter, fitSegments, hplain p List.mem_cons_self,
      if_neg Bool.false_ne_true]
    rfl
  | [] | _ :: _ :: _ =>
    rw [fitSegments, fitParts_of_separated hfillable hseparated, ← bindFitted_fitted]
    all_goals simp

/-! ### The path of a link is read back -/

/-- The segments of a pattern, those in front written as `kept` and those at the back left out. -/
structure FilledLayout (r : RoutePattern) (accepted : Bindings) (front back : List Segment)
    (kept : List WrittenSegment) : Prop where
  /-- The segments fall into two portions. -/
  segments : r.template.segments = front ++ back
  /-- The segments in front are written. -/
  writes : List.Forall₂ (r.WritesFilled accepted) front kept
  /-- Something is written for each of them. -/
  text : ∀ w ∈ kept, w.text ≠ ""
  /-- The segments at the back are parameters with their defaults. -/
  leftOut : ∀ s ∈ back, ∃ p, s = [.parameter p] ∧
    r.valueOf? accepted p.name = some (r.writtenValue accepted p) ∧
    r.isDefault p (r.writtenValue accepted p)

/-- A template whose parameters are neither catch-alls nor optional. -/
def Plain (r : RoutePattern) : Prop :=
  ∀ p ∈ r.template.parameters, p.isCatchAll = false ∧ p.isOptional = false

theorem mem_parameters {t : Template} {s : Segment} {p : Parameter} (hs : s ∈ t.segments)
    (hp : .parameter p ∈ s) : p ∈ t.parameters :=
  List.mem_flatMap.2 ⟨s, hs, Segment.mem_parameters_iff.2 hp⟩

/-- A link that was written from plain segments is the path of some first segments with a query. -/
theorem filledLayout_of_write? {url : String} (hplain : r.Plain)
    (h : r.write? accepted = some url) :
    ∃ front back kept, r.FilledLayout accepted front back kept ∧
      linkPath url = pathOf kept := by
  obtain ⟨kept, dropped, hws, htext, -, helidable, hurl⟩ := exists_of_write? h
  have hwrites : List.Forall₂ (r.WritesFilled accepted) r.template.segments (kept ++ dropped) :=
    forall₂_of_writeSegments? (fun s hs w hw =>
      writesFilled_of_writeSegment? (fun p hp => hplain p (mem_parameters hs hp)) hw) hws
  have hfront := List.forall₂_take_append _ _ _ hwrites
  have hurl : url = withQuery (pathOf kept) (r.extras accepted) := hurl
  refine ⟨r.template.segments.take kept.length, r.template.segments.drop kept.length, kept,
    ⟨(List.take_append_drop ..).symm, hfront, htext, fun s hs => ?_⟩, ?_⟩
  · have hback := List.forall₂_drop_append _ _ _ hwrites
    obtain ⟨w, hw, hwrite⟩ := exists_of_forall₂ hback hs
    obtain ⟨p, rfl, hdefault⟩ := hwrite.elidable (helidable w hw)
    exact ⟨p, rfl, hwrite.values p List.mem_cons_self, hdefault⟩
  · rw [hurl, linkPath_withQuery]
    refine notMem_pathOf fun w hw => ?_
    obtain ⟨s, hs, hwrite⟩ := exists_of_forall₂ hfront.flip hw
    rw [WritesFilled.text hwrite]
    exact notMem_percentEncode (by decide) (by decide) _

variable {front back : List Segment} {kept : List WrittenSegment}

/-- The pieces of the path are the filled segments. -/
theorem FilledLayout.pieces (h : r.FilledLayout accepted front back kept) :
    (UrlPath.ofString (pathOf kept)).pieces =
      front.map (Segment.filled (r.writtenValue accepted)) := by
  rw [pieces_pathOf]
  have hwrites := h.writes
  have htext := h.text
  clear h
  induction hwrites with
  | nil => rfl
  | @cons s w front kept hwrite _ ih =>
    have hne : s.filled (r.writtenValue accepted) ≠ "" := fun hempty =>
      htext w List.mem_cons_self (hwrite.text.trans (percentEncode_eq_empty.2 hempty))
    rw [List.flatMap_cons, hwrite.text, piecesOf_percentEncode hne, List.map_cons,
      List.singleton_append, ih fun w' hw' => htext w' (List.mem_cons_of_mem _ hw')]

theorem insertAll_append {β : Type u} {key : β → String} (xs ys : List β) (m : SortedBy key) :
    m.insertAll (xs ++ ys) = (m.insertAll xs).insertAll ys :=
  List.foldl_append

theorem fitSegments_front (hfillable : ∀ s ∈ front, s.Fillable value)
    (hseparated : ∀ s ∈ front, s.Separated value)
    (hplain : ∀ s ∈ front, ∀ p, .parameter p ∈ s → p.isCatchAll = false)
    (hback : ∀ s ∈ back, r.bindsWithoutPiece s) (vs : Bindings) :
    r.fitSegments vs (front ++ back) (front.map (Segment.filled value)) =
      some (SortedBy.insertAll (front.flatMap (boundIn value)) vs) := by
  induction front generalizing vs with
  | nil => exact fitSegments_nil hback
  | cons s front ih =>
    rw [List.forall_mem_cons] at hfillable hseparated hplain
    rw [List.cons_append, List.map_cons,
      fitSegments_filled hfillable.1 hseparated.1 hplain.1,
      ih hfillable.2 hseparated.2 hplain.2, List.flatMap_cons, insertAll_append]

/-! ### The values that are read back -/

/-- The names that are bound are those of the parameters. -/
theorem perm_boundIn (value : Parameter → String) (front : List Segment) :
    ((front.flatMap (boundIn value)).map Binding.key).Perm
      ((front.flatMap Segment.parameters).map (fold ·.name)) := by
  rw [List.map_flatMap, List.map_flatMap]
  refine List.Perm.flatMap_left _ fun s _ => ?_
  rw [boundIn, List.map_map]
  exact (List.reverse_perm _).map _

/-- What the pieces of the path and the defaults give. -/
def recoveredFrom (r : RoutePattern) (value : Parameter → String) (front : List Segment) :
    Bindings :=
  Bindings.withDefaults (SortedBy.insertAll (front.flatMap (boundIn value)) .empty) r.defaults

/-- A parameter that was written gets its value back. -/
theorem recoveredFrom_of_mem {p : Parameter}
    (hnames : ((front.flatMap Segment.parameters).map (fold ·.name)).Nodup)
    (hp : p ∈ front.flatMap Segment.parameters) :
    (r.recoveredFrom value front).get? p.name = some (value p) := by
  obtain ⟨s, hs, hps⟩ := List.mem_flatMap.1 hp
  have hmem : (⟨p.name, value p⟩ : Binding) ∈ front.flatMap (boundIn value) :=
    List.mem_flatMap.2 ⟨s, hs, List.mem_map.2 ⟨p, List.mem_reverse.2 hps, rfl⟩⟩
  have hnodup := (perm_boundIn value front).nodup_iff.2 hnames
  rw [recoveredFrom, Bindings.get?_withDefaults, Bindings.get?_insertAll_of_mem hnodup hmem,
    Option.some_or]

/-- A parameter that was left out gets its default. -/
theorem recoveredFrom_of_notMem {p : Parameter}
    (hp : fold p.name ∉ (front.flatMap Segment.parameters).map (fold ·.name)) :
    (r.recoveredFrom value front).get? p.name = r.defaults.get? p.name := by
  rw [recoveredFrom, Bindings.get?_withDefaults, Bindings.get?_insertAll_eq_none,
    Bindings.get?_empty, Option.none_or]
  intro b hb heq
  rw [← (perm_boundIn value front).mem_iff] at hp
  exact hp (heq ▸ List.mem_map_of_mem hb)

theorem FilledLayout.mem_segments (h : r.FilledLayout accepted front back kept) (hs : s ∈ front) :
    s ∈ r.template.segments := by
  rw [h.segments]
  exact List.mem_append_left _ hs

theorem FilledLayout.fillable (h : r.FilledLayout accepted front back kept)
    (hspaced : ∀ s ∈ r.template.segments, s.Spaced) :
    ∀ s ∈ front, s.Fillable (r.writtenValue accepted) := by
  intro s hs
  obtain ⟨w, -, hwrite⟩ := exists_of_forall₂ h.writes hs
  exact hwrite.fillable (hspaced s (h.mem_segments hs))

theorem FilledLayout.bindsWithoutPiece (h : r.FilledLayout accepted front back kept) :
    ∀ s ∈ back, r.bindsWithoutPiece s := by
  intro s hs
  obtain ⟨p, rfl, -, hdefault⟩ := h.leftOut s hs
  obtain ⟨given, hgiven, -⟩ := Option.any_eq_true .. |>.1 hdefault
  simp [RoutePattern.bindsWithoutPiece, Segment.soleParameter?, Bindings.has_eq, hgiven]

theorem FilledLayout.notCatchAll (h : r.FilledLayout accepted front back kept) (hplain : r.Plain) :
    ∀ s ∈ front, ∀ p, .parameter p ∈ s → p.isCatchAll = false :=
  fun _ hs p hp => (hplain p (mem_parameters (h.mem_segments hs) hp)).1

/-- Fitting the path of a link is fitting the filled segments. -/
theorem FilledLayout.fit?_eq (h : r.FilledLayout accepted front back kept) :
    r.fit? (.ofString (pathOf kept)) =
      (r.fitSegments .empty (front ++ back)
        (front.map (Segment.filled (r.writtenValue accepted)))).map
          (·.withDefaults r.defaults) := by
  rw [← h.segments, ← h.pieces]
  refine fit?_of_hasRoom (Or.inl ?_)
  rw [h.pieces, h.segments, List.length_map, List.length_append]
  exact Nat.le_add_right _ _

/-- Each parameter gets the value back that was written for it, up to case where it has a
default. -/
theorem FilledLayout.recovered (h : r.FilledLayout accepted front back kept)
    (hsound : r.template.Sound) {p : Parameter} (hp : p ∈ r.template.parameters) :
    ∃ matched, (r.recoveredFrom (r.writtenValue accepted) front).get? p.name = some matched ∧
      sameText matched (r.writtenValue accepted p) ∧
      (r.defaults.has p.name = false → matched = r.writtenValue accepted p) := by
  have hnames := hsound.names
  rw [Template.parameters, h.segments, List.flatMap_append, List.map_append,
    List.nodup_append] at hnames
  rw [Template.parameters, h.segments, List.flatMap_append, List.mem_append] at hp
  rcases hp with hp | hp
  · exact ⟨_, recoveredFrom_of_mem hnames.1 hp, sameText_self _, fun _ => rfl⟩
  · obtain ⟨s, hs, hps⟩ := List.mem_flatMap.1 hp
    obtain ⟨q, rfl, -, hdefault⟩ := h.leftOut s hs
    obtain rfl := List.mem_singleton.1 hps
    obtain ⟨given, hgiven, hsame⟩ := Option.any_eq_true .. |>.1 hdefault
    refine ⟨given, ?_, hsame, fun hnone => ?_⟩
    · rw [recoveredFrom_of_notMem, hgiven]
      exact fun hfront => hnames.2.2 _ hfront _ (List.mem_map_of_mem hp) rfl
    · rw [Bindings.has_eq, hgiven] at hnone
      cases hnone

/-- The path of a link fits the pattern, and each parameter gets the value back that was chosen for
it, up to case where it has a default. -/
def Recovers (r : RoutePattern) (accepted : Bindings) (url : String) : Prop :=
  ∃ vs, r.fit? (.ofString (linkPath url)) = some vs ∧
    ∀ p ∈ r.template.parameters, ∀ value, accepted.get? p.name = some value →
      ∃ matched, vs.get? p.name = some matched ∧ sameText matched value ∧
        (r.defaults.has p.name = false → matched = value)

/-- **Chosen values are recovered**: if a template without catch-alls and optional parameters is
written with the values chosen for a link, and no literal of a segment recurs in itself and the
value of the parameter after it, then the link gives the chosen values back. -/
theorem recovers_values {text : String} (hparse : Template.parse text = .ok r.template)
    (hplain : r.Plain) {ambient asked : Bindings} {sel : Selection}
    (hselect : r.select? ambient asked = some sel) {url : String}
    (hwrite : r.write? sel.accepted = some url)
    (hseparated : ∀ s ∈ r.template.segments, s.Separated (r.writtenValue sel.accepted)) :
    r.Recovers sel.accepted url := by
  obtain ⟨front, back, kept, hlayout, hurl⟩ := filledLayout_of_write? hplain hwrite
  refine ⟨r.recoveredFrom (r.writtenValue sel.accepted) front, ?_, ?_⟩
  · rw [hurl, hlayout.fit?_eq, fitSegments_front (hlayout.fillable (spaced_of_parse hparse))
      (fun s hs => hseparated s (hlayout.mem_segments hs)) (hlayout.notCatchAll hplain)
      hlayout.bindsWithoutPiece]
    rfl
  · intro p hp value hvalue
    have hwritten : r.writtenValue sel.accepted p = value :=
      writtenValue_eq ((chosen_of_select? hselect).1.valueOf?_eq hvalue)
    obtain ⟨matched, hget, hsame, hexact⟩ := hlayout.recovered (parameters_of_parse hparse) hp
    rw [hwritten] at hsame hexact
    exact ⟨matched, hget, hsame, hexact⟩

/-- The template `files/{name}.{ext}`. -/
def fileTemplate : Template where
  text := "files/\x7bname\x7d.\x7bext\x7d"
  segments := [[.literal "files"],
    [.parameter { name := "name" }, .literal ".", .parameter { name := "ext" }]]

/-- The pattern of `fileTemplate`, without defaults. -/
def filePattern : RoutePattern := .ofTemplate fileTemplate .empty

theorem parse_fileTemplate :
    Template.parse "files/\x7bname\x7d.\x7bext\x7d" = .ok fileTemplate := by decide +kernel

theorem plain_filePattern : filePattern.Plain := by
  unfold Plain
  decide

/-- A value may hold the literal that stands after it. -/
theorem recovers_values_sample :
    ∃ sel, filePattern.select? .empty (.ofPairs [("name", "report.final"), ("ext", "pdf")]) =
        some sel ∧
      filePattern.write? sel.accepted = some "/files/report.final.pdf" ∧
      filePattern.Recovers sel.accepted "/files/report.final.pdf" := by
  have hwrite : (filePattern.select? .empty
      (.ofPairs [("name", "report.final"), ("ext", "pdf")])).bind
      (fun sel => filePattern.write? sel.accepted) = some "/files/report.final.pdf" := by
    decide +kernel
  have hrecurs : (filePattern.select? .empty
      (.ofPairs [("name", "report.final"), ("ext", "pdf")])).map
      (fun sel => recurs "." (filePattern.writtenValue sel.accepted { name := "ext" })) =
        some false := by
    decide +kernel
  obtain ⟨sel, hselect, hwrite⟩ := Option.bind_eq_some_iff.1 hwrite
  rw [hselect, Option.map_some] at hrecurs
  refine ⟨sel, hselect, hwrite, ?_⟩
  refine recovers_values parse_fileTemplate plain_filePattern hselect hwrite ?_
  rintro s (_ | ⟨_, _ | ⟨_, ⟨⟩⟩⟩)
  · exact Segment.separated_of_length_le (Nat.le_refl 1)
  · have hfront : Segment.Separated (filePattern.writtenValue sel.accepted)
        [.parameter { name := "name" }] := Segment.separated_of_length_le (Nat.le_refl 1)
    exact (Segment.separated_append_parameter "." _).2 ⟨hfront, Option.some.inj hrecurs⟩

/-- A value may not hold the literal that stands before it: the parameter before the literal takes
what it can. -/
theorem misreads_values :
    ∃ sel, Template.parse "files/\x7bname\x7d.\x7bext\x7d" = .ok filePattern.template ∧
      filePattern.Plain ∧
      filePattern.select? .empty (.ofPairs [("name", "report"), ("ext", "final.pdf")]) =
        some sel ∧
      filePattern.write? sel.accepted = some "/files/report.final.pdf" ∧
      ¬ filePattern.Recovers sel.accepted "/files/report.final.pdf" := by
  have hwrite : (filePattern.select? .empty
      (.ofPairs [("name", "report"), ("ext", "final.pdf")])).bind
      (fun sel => filePattern.write? sel.accepted) = some "/files/report.final.pdf" := by
    decide +kernel
  have hvalue : (filePattern.select? .empty
      (.ofPairs [("name", "report"), ("ext", "final.pdf")])).bind
      (fun sel => sel.accepted.get? "name") = some "report" := by
    decide +kernel
  have hmatched : (filePattern.fit? (.ofString (linkPath "/files/report.final.pdf"))).bind
      (fun vs => vs.get? "name") = some "report.final" := by
    decide +kernel
  obtain ⟨sel, hselect, hwrite⟩ := Option.bind_eq_some_iff.1 hwrite
  rw [hselect, Option.bind_some] at hvalue
  refine ⟨sel, parse_fileTemplate, plain_filePattern, hselect, hwrite, ?_⟩
  rintro ⟨vs, hfit, hread⟩
  rw [hfit, Option.bind_some] at hmatched
  obtain ⟨matched, hget, hsame, -⟩ := hread { name := "name" } (by decide) "report" hvalue
  rw [hmatched] at hget
  obtain rfl := Option.some.inj hget
  exact absurd hsame (by decide +kernel)

/-! ### The proviso is needed -/

/-- A segment that takes its piece binds its parameters, and if each of them gets its value, then no
literal recurs. -/
theorem exists_bound (hfillable : s.Fillable value)
    (hplain : ∀ p, .parameter p ∈ s → p.isCatchAll = false) {vs vs' : Bindings}
    {segments : List Segment} {pieces : List String}
    (h : r.fitSegments vs (s :: segments) (s.filled value :: pieces) = some vs') :
    ∃ bs, bs.map Binding.name = (boundIn value s).map Binding.name ∧
      r.fitSegments (SortedBy.insertAll bs vs) segments pieces = some vs' ∧
      ((∀ b ∈ bs, ∀ p, .parameter p ∈ s → p.name = b.name → sameText b.value (value p)) →
        s.Separated value) := by
  by_cases hlength : s.length ≤ 1
  · have hseparated : s.Separated value := Segment.separated_of_length_le hlength
    rw [fitSegments_filled hfillable hseparated hplain] at h
    exact ⟨boundIn value s, rfl, h, fun _ => hseparated⟩
  · obtain ⟨part, part', parts, rfl⟩ : ∃ part part' parts, s = part :: part' :: parts := by
      match s, hlength with
      | part :: part' :: parts, _ => exact ⟨part, part', parts, rfl⟩
      | [_], hlength => exact absurd (Nat.le_refl 1) hlength
      | [], hlength => exact absurd (Nat.zero_le 1) hlength
    rw [fitSegments] at h
    · split at h
      next found hfound =>
        have hnames := map_fst_fitParts hfillable.apart hfound
        refine ⟨found.map fun x => ⟨x.1.name, String.ofList x.2⟩, ?_, ?_, fun hsame => ?_⟩
        · rw [boundIn, ← hnames, List.map_map, List.map_map, List.map_map]
          rfl
        · rw [← h, bindFitted, SortedBy.insertAll, List.foldl_map]
          rfl
        · refine separated_of_fitParts hfillable hfound fun x hx => ?_
          have hp : x.1 ∈ Segment.parameters (part :: part' :: parts) := by
            rw [← List.mem_reverse, ← hnames]
            exact List.mem_map_of_mem hx
          exact hsame _ (List.mem_map_of_mem hx) x.1 (Segment.mem_parameters_iff.1 hp) rfl
      next => cases h
    all_goals simp

/-- Segments that take their pieces bind their parameters, and if each of them gets its value, then
no literal recurs in any of them. -/
theorem exists_bound_front (hfillable : ∀ s ∈ front, s.Fillable value)
    (hplain : ∀ s ∈ front, ∀ p, .parameter p ∈ s → p.isCatchAll = false)
    (hback : ∀ s ∈ back, r.bindsWithoutPiece s) {vs vs' : Bindings}
    (h : r.fitSegments vs (front ++ back) (front.map (Segment.filled value)) = some vs') :
    ∃ bs, bs.map Binding.name = (front.flatMap (boundIn value)).map Binding.name ∧
      vs' = SortedBy.insertAll bs vs ∧
      ((∀ b ∈ bs, ∀ s ∈ front, ∀ p, .parameter p ∈ s → p.name = b.name →
        sameText b.value (value p)) → ∀ s ∈ front, s.Separated value) := by
  induction front generalizing vs with
  | nil =>
    rw [List.map_nil, List.nil_append, fitSegments_nil hback] at h
    exact ⟨[], rfl, (Option.some.inj h).symm, fun _ => List.forall_mem_nil _⟩
  | cons s front ih =>
    rw [List.forall_mem_cons] at hfillable hplain
    rw [List.map_cons, List.cons_append] at h
    obtain ⟨bs, hnames, hrest, hseparated⟩ := exists_bound hfillable.1 hplain.1 h
    obtain ⟨bs', hnames', rfl, hseparated'⟩ := ih hfillable.2 hplain.2 hrest
    refine ⟨bs ++ bs', ?_, (insertAll_append bs bs' vs).symm, fun hsame => ?_⟩
    · rw [List.map_append, hnames, hnames', List.flatMap_cons, List.map_append]
    · refine List.forall_mem_cons.2 ⟨hseparated fun b hb => ?_, hseparated' fun b hb s' hs' => ?_⟩
      · exact hsame b (List.mem_append_left _ hb) s List.mem_cons_self
      · exact hsame b (List.mem_append_right _ hb) s' (List.mem_cons_of_mem _ hs')

/-- Where all values that were written are read back, up to case, no literal recurs. -/
theorem separated_of_recovered {text : String} (hparse : Template.parse text = .ok r.template)
    (hplain : r.Plain) {url : String} (hwrite : r.write? accepted = some url) {vs : Bindings}
    (hfit : r.fit? (.ofString (linkPath url)) = some vs)
    (hread : ∀ p ∈ r.template.parameters, ∃ matched, vs.get? p.name = some matched ∧
      sameText matched (r.writtenValue accepted p)) :
    ∀ s ∈ r.template.segments, s.Separated (r.writtenValue accepted) := by
  obtain ⟨front, back, kept, hlayout, hurl⟩ := filledLayout_of_write? hplain hwrite
  rw [hurl, hlayout.fit?_eq] at hfit
  obtain ⟨vs', hfront, rfl⟩ := Option.map_eq_some_iff.1 hfit
  obtain ⟨bs, hnames, rfl, hseparated⟩ := exists_bound_front
    (hlayout.fillable (spaced_of_parse hparse)) (hlayout.notCatchAll hplain)
    hlayout.bindsWithoutPiece hfront
  have hnodup : (bs.map Binding.key).Nodup := by
    have hkeys := congrArg (List.map fold) hnames
    rw [List.map_map, List.map_map] at hkeys
    rw [show bs.map Binding.key = _ from hkeys]
    refine (perm_boundIn _ front).nodup_iff.2 ?_
    have hsound := (parameters_of_parse hparse).names
    rw [Template.parameters, hlayout.segments, List.flatMap_append, List.map_append] at hsound
    exact (List.nodup_append.1 hsound).1
  intro s hs
  rw [hlayout.segments, List.mem_append] at hs
  rcases hs with hs | hs
  · refine hseparated (fun b hb s' hs' p hp hname => ?_) s hs
    obtain ⟨matched, hmatched, hsame⟩ := hread p (mem_parameters (hlayout.mem_segments hs') hp)
    rw [hname, Bindings.get?_withDefaults, Bindings.get?_insertAll_of_mem hnodup hb,
      Option.some_or] at hmatched
    rwa [Option.some.inj hmatched]
  · obtain ⟨p, rfl, -⟩ := hlayout.leftOut s hs
    exact Segment.separated_of_length_le (Nat.le_refl 1)

end RoutePattern

end UrlRouting

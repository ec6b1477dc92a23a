import Mathlib.Data.List.Forall2
import Mathlib.Data.List.TakeWhile
import UrlRouting.Proofs.Bindings
import UrlRouting.Proofs.Text.Percent
import UrlRouting.Proofs.Trie.Matching
import UrlRouting.Proofs.UrlPath
import UrlRouting.RoutePattern.Filling

/-!
# A written path fits its pattern

`Writes` says what is written for a segment of one part. The pieces of a path that is written from
the first segments of a pattern are read back by these segments, provided that the others can go
without a piece (`fit?_of_writes`): each parameter gets the value that was written for it, and
those that were left out get their defaults.
-/

namespace UrlRouting

open Text UrlPath RoutePattern

/-- A relation that holds of two lists pairwise gives each element a counterpart. -/
theorem exists_of_forall₂ {α : Type u} {β : Type v} {R : α → β → Prop} {as : List α}
    {bs : List β} (h : List.Forall₂ R as bs) {a : α} (ha : a ∈ as) : ∃ b ∈ bs, R a b := by
  induction h with
  | nil => cases ha
  | @cons a' b as bs hab _ ih =>
    rcases List.mem_cons.1 ha with rfl | ha
    · exact ⟨b, List.mem_cons_self, hab⟩
    · obtain ⟨b', hb', hrel⟩ := ih ha
      exact ⟨b', List.mem_cons_of_mem _ hb', hrel⟩

/-- Lists that are related pairwise are split at the same place. -/
theorem exists_split_of_forall₂ {α : Type u} {β : Type v} {R : α → β → Prop} {as : List α}
    {front back : List β} {b : β} (h : List.Forall₂ R as (front ++ b :: back)) :
    ∃ front' a back', as = front' ++ a :: back' ∧ R a b ∧ List.Forall₂ R back' back := by
  induction front generalizing as with
  | nil =>
    obtain ⟨a, back', hab, hback, rfl⟩ := List.forall₂_cons_right_iff.1 h
    exact ⟨[], a, back', rfl, hab, hback⟩
  | cons b' front ih =>
    obtain ⟨a', as', -, hrest, rfl⟩ := List.forall₂_cons_right_iff.1 h
    obtain ⟨front', a, back', rfl, hab, hback⟩ := ih hrest
    exact ⟨a' :: front', a, back', rfl, hab, hback⟩

/-! ### Pieces of written texts -/

/-- The pieces that a part of a path is read as. -/
def piecesOf (text : String) : List String :=
  (words text.toList).map fun w => percentDecode (String.ofList w)

theorem words_percentEncode {s : String} (h : s ≠ "") :
    words (percentEncode .segment s).toList = [(percentEncode .segment s).toList] := by
  refine words_of_notMem (notMem_percentEncode (by decide) (by decide) s) fun hnil => h ?_
  exact percentEncode_eq_empty.1 (String.toList_eq_nil_iff.1 hnil)

/-- A value is read as one piece. -/
theorem piecesOf_percentEncode {s : String} (h : s ≠ "") :
    piecesOf (percentEncode .segment s) = [s] := by
  rw [piecesOf, words_percentEncode h, List.map_singleton, String.ofList_toList,
    percentDecode_percentEncode]

theorem toList_encodePieces (value : String) :
    (encodePieces value).toList = ['/'].intercalate ((value.toList.splitOn '/').map fun piece =>
      (percentEncode .segment (String.ofList piece)).toList) := by
  rw [encodePieces, String.toList_intercalate, List.map_map, splitAt_eq_splitOn]
  rfl

/-- A value of a catch-all is read as its pieces. -/
theorem piecesOf_encodePieces {value : String}
    (h : ∀ piece ∈ value.toList.splitOn '/', piece ≠ []) :
    piecesOf (encodePieces value) = (value.toList.splitOn '/').map String.ofList := by
  rw [piecesOf, toList_encodePieces, words_intercalate, List.flatMap_map, List.map_flatMap,
    List.map_eq_flatMap]
  refine List.flatMap_congr fun piece hpiece => ?_
  have hne : String.ofList piece ≠ "" := by simpa using h piece hpiece
  have hpieces := piecesOf_percentEncode hne
  rw [piecesOf] at hpieces
  exact hpieces

/-- The pieces of a value, joined by slashes, are the value. -/
theorem intercalate_pieces (value : String) :
    "/".intercalate ((value.toList.splitOn '/').map String.ofList) = value := by
  apply String.toList_injective
  rw [String.toList_intercalate, List.map_map]
  simp [Function.comp_def, List.intercalate_splitOn]

namespace RoutePattern

/-! ### Written segments -/

/-- Whether a value of a parameter may be left out at the end of a path: it is the default. -/
def isDefault (r : RoutePattern) (p : Parameter) (value : String) : Bool :=
  (r.defaults.get? p.name).any fun given => sameText given value

/-- What is written for a segment of one part. -/
inductive Writes (r : RoutePattern) (accepted : Bindings) : Segment → WrittenSegment → Prop where
  /-- A literal is written encoded. -/
  | literal (text : String) :
      Writes r accepted [.literal text] { text := percentEncode .segment text, elidable := false }
  /-- A parameter with a value is written as its value. -/
  | value (p : Parameter) (value : String) (hvalue : r.valueOf? accepted p.name = some value) :
      Writes r accepted [.parameter p]
        { text := if p.isCatchAll then encodePieces value else percentEncode .segment value
          elidable := r.isDefault p value }
  /-- A parameter without a value is left out. -/
  | absent (p : Parameter) (hvalue : r.valueOf? accepted p.name = none)
      (hneeds : p.isOptional || p.isCatchAll) :
      Writes r accepted [.parameter p] { text := "", elidable := true }

variable {r : RoutePattern} {accepted : Bindings}

theorem writes_of_writeSegment? {s : Segment} {w : WrittenSegment} (hsole : s.length = 1)
    (h : r.writeSegment? accepted s = some w) : r.Writes accepted s w := by
  obtain ⟨part, rfl⟩ := List.length_eq_one_iff.1 hsole
  cases part with
  | literal text =>
    simp [writeSegment?, Segment.soleParameter?, writeParts?, writePart?] at h
    subst h
    exact .literal text
  | parameter p =>
    simp only [writeSegment?, Segment.soleParameter?] at h
    split at h
    next value hvalue =>
      obtain rfl := Option.some.inj h
      exact .value p value hvalue
    next hvalue =>
      split at h
      next hneeds =>
        obtain rfl := Option.some.inj h
        exact .absent p hvalue hneeds
      next => cases h

/-- What holds of each written segment holds of all of them. -/
theorem forall₂_of_writeSegments? {R : Segment → WrittenSegment → Prop} {segments : List Segment}
    {ws : List WrittenSegment}
    (hR : ∀ s ∈ segments, ∀ w, r.writeSegment? accepted s = some w → R s w)
    (h : r.writeSegments? accepted segments = some ws) : List.Forall₂ R segments ws := by
  induction segments generalizing ws with
  | nil =>
    obtain rfl := Option.some.inj h
    exact .nil
  | cons s segments ih =>
    simp only [writeSegments?] at h
    split at h
    next w others hw hothers =>
      obtain rfl := Option.some.inj h
      exact .cons (hR s List.mem_cons_self w hw)
        (ih (fun s' hs' => hR s' (List.mem_cons_of_mem _ hs')) hothers)
    next => cases h

theorem writes_of_writeSegments? {segments : List Segment} {ws : List WrittenSegment}
    (hsole : ∀ s ∈ segments, s.length = 1)
    (h : r.writeSegments? accepted segments = some ws) :
    List.Forall₂ (r.Writes accepted) segments ws :=
  forall₂_of_writeSegments? (fun s hs _ hw => writes_of_writeSegment? (hsole s hs) hw) h

/-- A segment that can be left out can go without a piece. -/
theorem bindsWithoutPiece_of_elidable {s : Segment} {w : WrittenSegment}
    (h : r.Writes accepted s w) (helidable : w.elidable) : r.bindsWithoutPiece s := by
  cases h with
  | literal text => cases helidable
  | value p value hvalue =>
    obtain ⟨given, hgiven, -⟩ := Option.any_eq_true .. |>.1 helidable
    simp [bindsWithoutPiece, Segment.soleParameter?, Bindings.has_eq, hgiven]
  | absent p hvalue hneeds =>
    simpa [bindsWithoutPiece, Segment.soleParameter?] using Or.inl hneeds

/-! ### The path -/

/-- The bindings that segments are written with. -/
def writtenBindings (r : RoutePattern) (accepted : Bindings) (segments : List Segment) :
    List Binding :=
  segments.filterMap fun s => (Segment.soleParameter? s).bind fun p =>
    (r.valueOf? accepted p.name).map fun value => ⟨p.name, value⟩

/-- No catch-all among some segments has a value with an empty piece, unless it is the default,
which is not written. -/
def PiecesNonEmpty (r : RoutePattern) (accepted : Bindings) (segments : List Segment) : Prop :=
  ∀ p, [.parameter p] ∈ segments → p.isCatchAll → ∀ value,
    r.valueOf? accepted p.name = some value → r.isDefault p value = false →
    ∀ piece ∈ splitAt (· == '/') value.toList, piece ≠ []

theorem fitSegments_nil {vs : Bindings} {segments : List Segment}
    (h : ∀ s ∈ segments, r.bindsWithoutPiece s) : r.fitSegments vs segments [] = some vs := by
  induction segments with
  | nil => rfl
  | cons s segments ih =>
    rw [fitSegments, if_pos (h s List.mem_cons_self),
      ih fun s' hs' => h s' (List.mem_cons_of_mem _ hs')]

theorem branch_parameter {p : Parameter} (h : p.isCatchAll = false) :
    (Segment.branch [.parameter p]).isCatchAll = false := by
  rw [isCatchAll_branch]
  simp [Segment.soleParameter?, h]

theorem writtenBindings_parameter {p : Parameter} {value : String}
    (h : r.valueOf? accepted p.name = some value) (segments : List Segment) :
    r.writtenBindings accepted ([.parameter p] :: segments) =
      ⟨p.name, value⟩ :: r.writtenBindings accepted segments := by
  simp [writtenBindings, Segment.soleParameter?, h]

/-- A catch-all at the end takes all pieces of a value. -/
theorem fitSegments_catchAll {p : Parameter} (h : p.isCatchAll) (value : String)
    (vs : Bindings) :
    HasRoom [[.parameter p]] ((value.toList.splitOn '/').map String.ofList) ∧
    r.fitSegments vs [[.parameter p]] ((value.toList.splitOn '/').map String.ofList) =
      some (vs.bind p.name value) := by
  have hroom : lastIsCatchAll [[.parameter p]] := by
    simp [lastIsCatchAll, Segment.soleParameter?, h]
  refine ⟨Or.inr hroom, ?_⟩
  have hvalue := intercalate_pieces value
  cases hsplit : (value.toList.splitOn '/').map String.ofList with
  | nil => exact absurd (List.map_eq_nil_iff.1 hsplit) (List.splitOn_ne_nil _ _)
  | cons piece pieces =>
    rw [hsplit] at hvalue
    rw [fitSegments, if_pos h, hvalue]

/-- The pieces that were written for the first segments are read back by them. -/
theorem fitSegments_of_writes {front back : List Segment} {kept : List WrittenSegment}
    (hwrites : List.Forall₂ (r.Writes accepted) front kept) (htext : ∀ w ∈ kept, w.text ≠ "")
    (hend : ∀ w, kept.getLast? = some w → w.elidable = false)
    (hback : ∀ s ∈ back, r.bindsWithoutPiece s) (hlast : CatchAllLast (front ++ back))
    (hpieces : r.PiecesNonEmpty accepted front) (vs : Bindings) :
    HasRoom (front ++ back) (kept.flatMap fun w => piecesOf w.text) ∧
    r.fitSegments vs (front ++ back) (kept.flatMap fun w => piecesOf w.text) =
      some (SortedBy.insertAll (r.writtenBindings accepted front) vs) := by
  induction hwrites generalizing vs with
  | nil => exact ⟨Or.inl (Nat.zero_le _), fitSegments_nil hback⟩
  | @cons s w front kept hw hrest ih =>
    have hw_text := htext w List.mem_cons_self
    have ih := ih (fun w' hw' => htext w' (List.mem_cons_of_mem _ hw'))
      (fun w' hw' => hend w' (by rw [List.getLast?_cons, hw', Option.getD_some])) hlast.tail
      (fun p hp => hpieces p (List.mem_cons_of_mem _ hp))
    cases hw with
    | literal text =>
      have hne : text ≠ "" := fun h => hw_text (percentEncode_eq_empty.2 h)
      obtain ⟨hroom, hfit⟩ := ih vs
      rw [List.flatMap_cons, piecesOf_percentEncode hne, List.singleton_append, List.cons_append]
      refine ⟨(hasRoom_cons (by rfl)).2 hroom, ?_⟩
      rw [fitSegments, if_pos (sameText_self text), hfit]
      rfl
    | value p value hvalue =>
      rw [writtenBindings_parameter hvalue, SortedBy.insertAll_cons]
      cases hc : p.isCatchAll with
      | false =>
        simp only [hc, Bool.false_eq_true, if_false] at hw_text ⊢
        have hne : value ≠ "" := fun h => hw_text (percentEncode_eq_empty.2 h)
        obtain ⟨hroom, hfit⟩ := ih (vs.insert ⟨p.name, value⟩)
        rw [List.flatMap_cons, piecesOf_percentEncode hne, List.singleton_append, List.cons_append]
        refine ⟨(hasRoom_cons (branch_parameter hc)).2 hroom, ?_⟩
        rw [fitSegments, hc, if_neg Bool.false_ne_true]
        exact hfit
      | true =>
        -- the catch-all is the last segment, and takes all of its pieces
        obtain ⟨rfl, rfl⟩ := List.append_eq_nil_iff.1 (hlast.eq_nil rfl hc)
        cases hrest
        have hparts := hpieces p List.mem_cons_self hc value hvalue (hend _ rfl)
        rw [splitAt_eq_splitOn] at hparts
        simp only [if_true, List.flatMap_singleton, piecesOf_encodePieces hparts]
        exact fitSegments_catchAll hc value vs
    | absent p hvalue hneeds => exact absurd rfl hw_text

/-- How the segments of a pattern stand in a link: those in front are written as `kept`, and those
at the back are left out. -/
structure Layout (r : RoutePattern) (accepted : Bindings) (front back : List Segment)
    (kept : List WrittenSegment) : Prop where
  /-- The segments fall into two portions. -/
  segments : r.template.segments = front ++ back
  /-- The segments in front are written. -/
  writes : List.Forall₂ (r.Writes accepted) front kept
  /-- Something is written for each of them. -/
  text : ∀ w ∈ kept, w.text ≠ ""
  /-- The last of them may not be left out. -/
  last : ∀ w, kept.getLast? = some w → w.elidable = false
  /-- The segments at the back may be left out. -/
  leftOut : ∀ s ∈ back, ∃ w, r.Writes accepted s w ∧ w.elidable

/-- The path that segments are written as. -/
def pathOf (kept : List WrittenSegment) : String := "/" ++ "/".intercalate (kept.map (·.text))

/-- The bindings that are written as a query. -/
def extras (r : RoutePattern) (accepted : Bindings) : List Binding :=
  accepted.items.filter r.isExtra

theorem elidable_getLast? {ws : List WrittenSegment} {w : WrittenSegment}
    (h : (dropElidable ws).getLast? = some w) : w.elidable = false := by
  rw [dropElidable, List.getLast?_reverse] at h
  have := List.head?_dropWhile_not (·.elidable) ws.reverse
  rw [h] at this
  exact this

theorem exists_dropElidable (ws : List WrittenSegment) :
    ∃ dropped, ws = dropElidable ws ++ dropped ∧ ∀ w ∈ dropped, w.elidable := by
  refine ⟨(ws.reverse.takeWhile (·.elidable)).reverse, ?_, fun w hw => ?_⟩
  · rw [dropElidable, ← List.reverse_append, List.takeWhile_append_dropWhile, List.reverse_reverse]
  · exact List.mem_takeWhile_imp (List.mem_reverse.1 hw)

theorem dropElidable_subset (ws : List WrittenSegment) : dropElidable ws ⊆ ws := by
  obtain ⟨dropped, heq, -⟩ := exists_dropElidable ws
  intro w hw
  rw [heq]
  exact List.mem_append_left dropped hw

/-- A link is the path of the segments that are not dropped at its end, with a query. -/
theorem exists_of_write? {url : String} (h : r.write? accepted = some url) :
    ∃ kept dropped, r.writeSegments? accepted r.template.segments = some (kept ++ dropped) ∧
      (∀ w ∈ kept, w.text ≠ "") ∧ (∀ w, kept.getLast? = some w → w.elidable = false) ∧
      (∀ w ∈ dropped, w.elidable) ∧
      url = pathOf kept ++
        (if ((r.extras accepted).map writeQueryPair).isEmpty then ""
         else "?" ++ "&".intercalate ((r.extras accepted).map writeQueryPair)) := by
  unfold write? at h
  split at h
  · cases h
  next ws hws =>
    dsimp only at h
    split at h
    · cases h
    next htexts =>
      obtain ⟨dropped, heq, helidable⟩ := exists_dropElidable ws
      refine ⟨dropElidable ws, dropped, heq ▸ hws, fun w hw hempty => ?_,
        fun w => elidable_getLast?, helidable, (Option.some.inj h).symm⟩
      refine htexts (List.any_eq_true.2 ⟨w.text, List.mem_map_of_mem hw, ?_⟩)
      rw [hempty]
      rfl

/-- A link is the path of some first segments with a query. -/
theorem layout_of_write? {url : String} (hsole : ∀ s ∈ r.template.segments, s.length = 1)
    (h : r.write? accepted = some url) :
    ∃ front back kept, r.Layout accepted front back kept ∧
      url = pathOf kept ++
        (if ((r.extras accepted).map writeQueryPair).isEmpty then ""
         else "?" ++ "&".intercalate ((r.extras accepted).map writeQueryPair)) := by
  obtain ⟨kept, dropped, hws, htext, hend, helidable, hurl⟩ := exists_of_write? h
  have hwrites := writes_of_writeSegments? hsole hws
  refine ⟨r.template.segments.take kept.length, r.template.segments.drop kept.length, kept,
    ⟨?_, ?_, htext, hend, ?_⟩, hurl⟩
  · exact (List.take_append_drop ..).symm
  · exact List.forall₂_take_append _ _ _ hwrites
  · intro s hs
    have hback := List.forall₂_drop_append _ _ _ hwrites
    obtain ⟨w, hw, hwrite⟩ := exists_of_forall₂ hback hs
    exact ⟨w, hwrite, helidable w hw⟩

/-- The pieces of a path are those of the segments that it was written from. -/
theorem pieces_pathOf (kept : List WrittenSegment) :
    (UrlPath.ofString (pathOf kept)).pieces = kept.flatMap fun w => piecesOf w.text := by
  rw [pieces_ofString, pathOf, String.toList_append, String.toList_intercalate, List.map_map,
    show "/".toList = ['/'] from rfl, List.singleton_append, words_slash, words_intercalate,
    List.flatMap_map, List.map_flatMap]
  rfl

/-- A path whose pieces were written for the first segments of a pattern fits it. -/
theorem Layout.fit? {front back : List Segment} {kept : List WrittenSegment}
    (h : r.Layout accepted front back kept) (hlast : CatchAllLast r.template.segments)
    (hpieces : r.PiecesNonEmpty accepted r.template.segments) :
    r.fit? (.ofString (pathOf kept)) =
      some (Bindings.withDefaults (SortedBy.insertAll (r.writtenBindings accepted front) .empty)
        r.defaults) := by
  have hback : ∀ s ∈ back, r.bindsWithoutPiece s := by
    intro s hs
    obtain ⟨w, hw, helidable⟩ := h.leftOut s hs
    exact bindsWithoutPiece_of_elidable hw helidable
  have hsegments := h.segments
  rw [hsegments] at hlast hpieces
  have hpieces : r.PiecesNonEmpty accepted front :=
    fun p hp => hpieces p (List.mem_append_left _ hp)
  obtain ⟨hroom, hfit⟩ := fitSegments_of_writes h.writes h.text h.last hback hlast hpieces .empty
  rw [← hsegments, ← pieces_pathOf] at hroom hfit
  rw [fit?_of_hasRoom hroom, hfit]
  rfl

end RoutePattern

end UrlRouting

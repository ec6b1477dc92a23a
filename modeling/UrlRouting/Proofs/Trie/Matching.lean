import UrlRouting.Proofs.Template.Parameters
import UrlRouting.Proofs.Text.Folding
import UrlRouting.Proofs.Trie.Candidates
import UrlRouting.RoutePattern.Fitting

/-!
# Candidates and fitting

A trie offers an entry for a path if the entry ends along one of the routes of the path. Here
that is compared with fitting the path to the pattern of the entry: an entry that the path fits
ends along exactly one route (`exists_route`, `route_unique`), and one without segments of
several parts ends along a route only if the path fits it (`fits_of_route`). So the walk neither
loses an entry nor offers one twice (`Trie.walk_exact`).
-/

namespace UrlRouting

open Text

/-! ### One segment -/

theorem isCatchAll_branch (s : Segment) :
    s.branch.isCatchAll = (Segment.soleParameter? s).any (·.isCatchAll) := by
  unfold Segment.branch Segment.soleParameter?
  split
  · rfl
  next p => cases hc : p.isCatchAll <;> cases p.isConstrained <;> simp [Branch.isCatchAll, hc]
  next hl hp =>
    split
    next p => exact absurd rfl (hp p)
    · rfl

/-- A catch-all is followed by no segment. -/
theorem CatchAllLast.eq_nil_of_branch {s : Segment} {rest : List Segment}
    (h : CatchAllLast (s :: rest)) (hs : s.branch.isCatchAll) : rest = [] := by
  rw [isCatchAll_branch, Option.any_eq_true] at hs
  obtain ⟨p, hp, hc⟩ := hs
  exact h.eq_nil hp hc

/-- Whether a segment fits one piece. -/
def Segment.takes (s : Segment) (piece : String) : Bool :=
  match s with
  | [.literal text] => sameText text piece
  | [.parameter _] => true
  | parts => (fitParts parts piece).isSome

theorem branch_of_complex {s : Segment} (hl : ∀ text, s = [.literal text] → False)
    (hp : ∀ p, s = [.parameter p] → False) : s.branch = .constrained := by
  unfold Segment.branch
  split
  next text => exact (hl text rfl).elim
  next p => exact (hp p rfl).elim
  · rfl

theorem takes_of_complex {s : Segment} (hl : ∀ text, s = [.literal text] → False)
    (hp : ∀ p, s = [.parameter p] → False) (piece : String) :
    s.takes piece = (fitParts s piece).isSome := by
  unfold Segment.takes
  split
  next text => exact (hl text rfl).elim
  next p => exact (hp p rfl).elim
  · rfl

theorem catchAll_mem_branchesFor {b : Branch} (h : b.isCatchAll) (piece : String) :
    b ∈ branchesFor piece := by
  cases b <;> simp [Branch.isCatchAll, branchesFor] at h ⊢

/-- A piece that fits a segment can take its branch. -/
theorem branch_mem_branchesFor {s : Segment} {piece : String} (h : s.takes piece) :
    s.branch ∈ branchesFor piece := by
  unfold Segment.branch
  split
  next text =>
    have := sameText_iff.1 h
    simp [branchesFor, this]
  next p => cases p.isCatchAll <;> cases p.isConstrained <;> simp [branchesFor]
  · simp [branchesFor]

/-- A piece that can take the branch of a segment fits it, unless the segment has several parts. -/
theorem takes_of_branch {s : Segment} {piece : String} (hs : s.length = 1)
    (h : s.branch ∈ branchesFor piece) : s.takes piece := by
  obtain ⟨part, rfl⟩ := List.length_eq_one_iff.1 hs
  cases part with
  | literal text =>
    have : fold text = fold piece := by simpa [branchesFor, Segment.branch] using h
    exact sameText_iff.2 this
  | parameter p => rfl

/-! ### Several segments -/

/-- Whether the last of some segments is a catch-all. -/
def lastIsCatchAll (segments : List Segment) : Bool :=
  match segments.getLast? with
  | some s => (Segment.soleParameter? s).any (·.isCatchAll)
  | none => false

/-- Some segments have room for some pieces. -/
def HasRoom (segments : List Segment) (pieces : List String) : Prop :=
  pieces.length ≤ segments.length ∨ lastIsCatchAll segments

theorem lastIsCatchAll_cons {s : Segment} {rest : List Segment}
    (hs : s.branch.isCatchAll = false) : lastIsCatchAll (s :: rest) = lastIsCatchAll rest := by
  cases rest with
  | nil => simpa [lastIsCatchAll, isCatchAll_branch] using hs
  | cons s' rest => simp [lastIsCatchAll, List.getLast?_cons_cons]

theorem hasRoom_cons {s : Segment} {rest : List Segment} {piece : String} {pieces : List String}
    (hs : s.branch.isCatchAll = false) :
    HasRoom (s :: rest) (piece :: pieces) ↔ HasRoom rest pieces := by
  simp [HasRoom, lastIsCatchAll_cons hs]

namespace RoutePattern

/-- Whether segments fit some pieces, without the values that they take from them. -/
def fits (r : RoutePattern) : List Segment → List String → Bool
  | segments, [] => segments.all r.bindsWithoutPiece
  | [], _ :: _ => true
  | s :: segments, piece :: pieces =>
    s.branch.isCatchAll || (s.takes piece && r.fits segments pieces)

variable {r : RoutePattern}

theorem isSome_fitSegments (vs : Bindings) (segments : List Segment) (pieces : List String) :
    (r.fitSegments vs segments pieces).isSome = r.fits segments pieces := by
  fun_induction fitSegments r vs segments pieces with
  | case1 vs pieces => cases pieces <;> rfl
  | case2 vs s segments hb ih => rw [ih, fits, fits, List.all_cons, hb, Bool.true_and]
  | case3 vs s segments hb => simp [fits, hb]
  | case4 vs text segments piece pieces h ih =>
    rw [ih]
    simp [fits, isCatchAll_branch, Segment.soleParameter?, Segment.takes, h]
  | case5 vs text segments piece pieces h =>
    simp [fits, isCatchAll_branch, Segment.soleParameter?, Segment.takes, h]
  | case6 vs p segments piece pieces h =>
    simp [fits, isCatchAll_branch, Segment.soleParameter?, h]
  | case7 vs p segments piece pieces h ih =>
    rw [ih]
    simp [fits, isCatchAll_branch, Segment.soleParameter?, Segment.takes, h]
  | case8 vs parts segments piece pieces hl hp fitted hfit ih =>
    rw [ih]
    simp [fits, branch_of_complex hl hp, Branch.isCatchAll, takes_of_complex hl hp, hfit]
  | case9 vs parts segments piece pieces hl hp hfit =>
    simp [fits, branch_of_complex hl hp, Branch.isCatchAll, takes_of_complex hl hp, hfit]

theorem hasRoom_iff (path : UrlPath) :
    HasRoom r.template.segments path.pieces ↔
      (path.pieces.length > r.template.segments.length && !r.endsInCatchAll) = false := by
  rw [show r.endsInCatchAll = lastIsCatchAll r.template.segments from rfl]
  simp only [HasRoom, Bool.and_eq_false_iff, decide_eq_false_iff_not, Bool.not_eq_false',
    gt_iff_lt, Nat.not_lt]

theorem fit?_of_hasRoom {path : UrlPath} (h : HasRoom r.template.segments path.pieces) :
    r.fit? path =
      (r.fitSegments .empty r.template.segments path.pieces).map (·.withDefaults r.defaults) := by
  rw [hasRoom_iff] at h
  rw [fit?, h, if_neg Bool.false_ne_true]

/-- A path fits a pattern if its segments have room for the pieces and fit them. -/
theorem isSome_fit? (path : UrlPath) :
    (r.fit? path).isSome ↔
      HasRoom r.template.segments path.pieces ∧ r.fits r.template.segments path.pieces := by
  by_cases h : HasRoom r.template.segments path.pieces
  · simp [fit?_of_hasRoom h, h, isSome_fitSegments]
  · have hnone : r.fit? path = none := by
      rw [hasRoom_iff, Bool.not_eq_false] at h
      rw [fit?, if_pos h]
    simp [hnone, h]

/-! ### Routes of a path that fits -/

/-- Segments that fit some pieces end along a route of the pieces. -/
theorem exists_route {segments : List Segment} {pieces : List String}
    (hlast : CatchAllLast segments) (hroom : HasRoom segments pieces)
    (hfit : r.fits segments pieces) : ∃ label ∈ routes pieces, r.endsAt segments label := by
  induction pieces generalizing segments with
  | nil => exact ⟨[], List.mem_singleton_self _, by cases segments <;> exact hfit⟩
  | cons piece pieces ih =>
    cases segments with
    | nil => simp [HasRoom, lastIsCatchAll] at hroom
    | cons s rest =>
      cases hc : s.branch.isCatchAll with
      | true =>
        obtain rfl := hlast.eq_nil_of_branch hc
        refine ⟨[s.branch], mem_routes_cons.2 ?_, by simp [endsAt]⟩
        exact ⟨s.branch, catchAll_mem_branchesFor hc piece, [], rfl, by simp [hc]⟩
      | false =>
        simp only [fits, hc, Bool.false_or, Bool.and_eq_true] at hfit
        obtain ⟨label, hmem, hends⟩ := ih hlast.tail ((hasRoom_cons hc).1 hroom) hfit.2
        refine ⟨s.branch :: label, mem_routes_cons.2 ?_, by simp [endsAt, hends]⟩
        exact ⟨s.branch, branch_mem_branchesFor hfit.1, label, rfl, by simp [hc, hmem]⟩

/-- Segments end along one route of some pieces at most. -/
theorem route_unique {segments : List Segment} {pieces : List String} {label label' : List Branch}
    (hmem : label ∈ routes pieces) (hmem' : label' ∈ routes pieces)
    (h : r.endsAt segments label) (h' : r.endsAt segments label') : label = label' := by
  induction pieces generalizing segments label label' with
  | nil => rw [List.mem_singleton.1 hmem, List.mem_singleton.1 hmem']
  | cons piece pieces ih =>
    obtain ⟨b, -, rest, rfl, hrest⟩ := mem_routes_cons.1 hmem
    obtain ⟨b', -, rest', rfl, hrest'⟩ := mem_routes_cons.1 hmem'
    cases segments with
    | nil => cases h
    | cons s segments =>
      simp only [endsAt, Bool.and_eq_true, beq_iff_eq] at h h'
      obtain ⟨rfl, h⟩ := h
      obtain ⟨rfl, h'⟩ := h'
      split at hrest
      next hc =>
        rw [if_pos hc] at hrest'
        rw [hrest, hrest']
      next hc =>
        rw [if_neg hc] at hrest'
        rw [ih hrest hrest' h h']

/-- The branches of a route that segments end along are those of as many segments as there are
pieces, or of all segments. -/
theorem map_kind_route {segments : List Segment} {pieces : List String} {label : List Branch}
    (hlast : CatchAllLast segments) (hmem : label ∈ routes pieces)
    (h : r.endsAt segments label) :
    label.map Branch.kind = (segments.take pieces.length).map fun s => s.branch.kind := by
  induction pieces generalizing segments label with
  | nil => simp [List.mem_singleton.1 hmem]
  | cons piece pieces ih =>
    obtain ⟨b, -, rest, rfl, hrest⟩ := mem_routes_cons.1 hmem
    cases segments with
    | nil => cases h
    | cons s segments =>
      simp only [endsAt, Bool.and_eq_true, beq_iff_eq] at h
      obtain ⟨rfl, h⟩ := h
      rw [List.map_cons, List.length_cons, List.take_succ_cons, List.map_cons]
      split at hrest
      next hc =>
        subst hrest
        simp [hlast.eq_nil_of_branch hc]
      next hc => rw [ih hlast.tail hrest h]

/-- Segments of one part each fit some pieces if they end along a route of the pieces. -/
theorem fits_of_route {segments : List Segment} {pieces : List String} {label : List Branch}
    (hlast : CatchAllLast segments) (hsole : ∀ s ∈ segments, s.length = 1)
    (hmem : label ∈ routes pieces) (h : r.endsAt segments label) :
    HasRoom segments pieces ∧ r.fits segments pieces := by
  induction pieces generalizing segments label with
  | nil =>
    rw [List.mem_singleton.1 hmem] at h
    exact ⟨Or.inl (Nat.zero_le _), by cases segments <;> exact h⟩
  | cons piece pieces ih =>
    obtain ⟨b, hb, rest, rfl, hrest⟩ := mem_routes_cons.1 hmem
    cases segments with
    | nil => cases h
    | cons s segments =>
      simp only [endsAt, Bool.and_eq_true, beq_iff_eq] at h
      obtain ⟨rfl, h⟩ := h
      split at hrest
      next hc =>
        rw [hlast.eq_nil_of_branch hc]
        refine ⟨Or.inr ?_, by simp [fits, hc]⟩
        rw [← hc, isCatchAll_branch]
        rfl
      next hc =>
        rw [Bool.not_eq_true] at hc
        obtain ⟨hroom, hfits⟩ :=
          ih hlast.tail (fun s' hs' => hsole s' (List.mem_cons_of_mem _ hs')) hrest h
        refine ⟨(hasRoom_cons hc).2 hroom, ?_⟩
        simp [fits, takes_of_branch (hsole s List.mem_cons_self) hb, hfits]

end RoutePattern

/-! ### The walk -/

namespace Trie

variable {τ : Type} {es : List (Inbound τ)}

theorem mem_positionsAt {label : List Branch} {i : Nat} :
    i ∈ positionsAt es label ↔ ∃ e, es[i]? = some e ∧ e.endsAt label := by
  rw [positionsAt, List.mem_filter, List.mem_range, Option.any_eq_true]
  refine and_iff_right_of_imp ?_
  rintro ⟨e, he, -⟩
  exact (List.getElem?_eq_some_iff.1 he).1

/-- No entry ends along two routes of a path, and none twice along one. -/
theorem positions_nodup (es : List (Inbound τ)) (pieces : List String) :
    ((routes pieces).flatMap (positionsAt es)).Nodup := by
  rw [List.nodup_flatMap]
  refine ⟨fun label _ => List.nodup_range.filter _, ?_⟩
  refine (routes_nodup pieces).imp_of_mem fun {label label'} hl hl' hne i hi hi' => ?_
  obtain ⟨e, he, hends⟩ := mem_positionsAt.1 hi
  obtain ⟨e', he', hends'⟩ := mem_positionsAt.1 hi'
  obtain rfl : e = e' := Option.some.inj (he.symm.trans he')
  exact hne (RoutePattern.route_unique hl hl' hends hends')

/-- **The walk loses no entry and offers none twice**: in a trie grown from entries with parsed
templates, an entry that the path fits is a candidate once, no entry is one more often, and a
candidate whose segments have one part each is one that the path fits. -/
theorem walk_exact {order : Int} {t : Trie τ} (ht : Grown order es t)
    (hes : ∀ e ∈ es, ∃ text, Template.parse text = .ok e.pattern.template) (path : UrlPath) :
    (∀ (i : Nat) e, es[i]? = some e → (e.pattern.fit? path).isSome →
      (t.candidatePositions path).count i = 1) ∧
    (t.candidatePositions path).Nodup ∧
    ∀ i ∈ t.candidatePositions path, ∃ e, es[i]? = some e ∧ t.entries[i]? = some e ∧
      ((∀ s ∈ e.pattern.template.segments, s.length = 1) → (e.pattern.fit? path).isSome) := by
  have hperm := ht.candidatePositions path
  have hlast : ∀ (i : Nat) e, es[i]? = some e → CatchAllLast e.pattern.template.segments := by
    intro i e he
    obtain ⟨text, htext⟩ := hes e (List.mem_of_getElem? he)
    exact (parameters_of_parse htext).catchAll
  refine ⟨fun i e he hfit => ?_, hperm.nodup_iff.2 (positions_nodup es path.pieces),
    fun i hi => ?_⟩
  · obtain ⟨hroom, hfits⟩ := RoutePattern.isSome_fit? path |>.1 hfit
    obtain ⟨label, hmem, hends⟩ := RoutePattern.exists_route (hlast i e he) hroom hfits
    rw [hperm.count_eq]
    refine List.count_eq_one_of_mem (positions_nodup es path.pieces) ?_
    exact List.mem_flatMap.2 ⟨label, hmem, mem_positionsAt.2 ⟨e, he, hends⟩⟩
  · obtain ⟨label, hmem, hi⟩ := List.mem_flatMap.1 (hperm.mem_iff.1 hi)
    obtain ⟨e, he, hends⟩ := mem_positionsAt.1 hi
    refine ⟨e, he, ?_, fun hsole => ?_⟩
    · rw [← Array.getElem?_toList, ht.labelled.1, he]
    · exact RoutePattern.isSome_fit? path |>.2
        (RoutePattern.fits_of_route (hlast i e he) hsole hmem hends)

/-- A template with a default in the middle and a catch-all at the end. -/
def sampleTemplate : Template where
  text := "a/\x7bb=x\x7d/\x7b*c\x7d"
  segments := [[.literal "a"], [.parameter { name := "b", default? := some "x" }],
    [.parameter { name := "c", isCatchAll := true }]]

theorem parse_sampleTemplate :
    Template.parse "/a/\x7bb=x\x7d/\x7b*c\x7d" = .ok sampleTemplate := by decide +kernel

/-- An entry for `sampleTemplate`. -/
def sampleEntry (target : τ) : Inbound τ where
  order := 0
  name? := none
  pattern := .ofTemplate sampleTemplate .empty
  constraints := .empty
  target

/-- The entry for `sampleTemplate` is a candidate for `/A`, where its default and its catch-all
take no piece. -/
theorem walk_exact_sample :
    (((empty 0).insertAll [sampleEntry ()]).candidatePositions (.ofString "/A")).count 0 = 1 := by
  refine (walk_exact (grown_insertAll 0 [sampleEntry ()]) ?_ (.ofString "/A")).1 0 _ rfl ?_
  · rintro e (_ | ⟨_, ⟨⟩⟩)
    exact ⟨_, parse_sampleTemplate⟩
  · decide +kernel

end Trie

end UrlRouting

import UrlRouting.Proofs.Bindings
import UrlRouting.Proofs.RoutePattern.ByteOffsets
import UrlRouting.Proofs.RoutePattern.Shares
import UrlRouting.Proofs.Template.Parameters

/-!
# What a segment takes of a piece

Of all ways to divide a piece between the parts of a segment, one may be the `Segment.Rightmost`:
each literal starts in it at least as far to the right as in any other. There is no second one, as
the starts of the literals determine all shares (`Segment.Divides.eq_of_starts`). If a segment takes
a piece, it is divided in this way, and the values afterwards are the shares of the parameters and
what was bound to other names (`Segment.Stores`); otherwise no value is changed
(`Segment.takePiece?_rightmost`).
-/

namespace UrlRouting

open Text

namespace Segment

/-- The way to divide a text in which each literal starts furthest to the right. -/
structure Rightmost (s : Segment) (text : List Char) (shares : List (List Char)) : Prop where
  /-- The text is divided. -/
  divides : s.Divides text shares
  /-- No literal starts further to the right if the text is divided in another way. -/
  furthest : ∀ shares', s.Divides text shares' → s.StartsBy 0 shares' shares

/-- Values after each parameter of a segment has been given its share: these shares, under the names
as they are spelled in the segment, and what there was under other names. -/
def Stores (s : Segment) (vs : Bindings) (shares : List (List Char)) (stored : Bindings) : Prop :=
  ∀ b : Binding, b ∈ stored.items ↔
    (∃ p share, (Part.parameter p, share) ∈ s.zip shares ∧ b = ⟨p.name, String.ofList share⟩) ∨
    (b ∈ vs.items ∧ ∀ p, .parameter p ∈ s → fold p.name ≠ fold b.name)

variable {s : Segment} {text : List Char} {shares shares' : List (List Char)}

/-! ### The starts of the literals determine the shares -/

theorem shareStart_succ (share : List Char) (shares : List (List Char)) (i : Nat) :
    shareStart (share :: shares) (i + 1) = share.length + shareStart shares i := by
  simp [shareStart]

/-- A text is divided in one way only if it is said where each literal starts. -/
theorem Divides.eq_of_starts (hturn : s.IsChain Part.DiffersFrom) (h : s.Divides text shares)
    (h' : s.Divides text shares')
    (hstarts : ∀ i literal, s[i]? = some (.literal literal) →
      shareStart shares i = shareStart shares' i) : shares = shares' := by
  induction s generalizing text shares shares' with
  | nil => rw [(divides_nil.1 h).2, (divides_nil.1 h').2]
  | cons part s ih =>
    obtain ⟨htaken, rfl⟩ := h
    obtain ⟨htaken', hwhole⟩ := h'
    obtain ⟨share, rest, hshare, hrest, rfl⟩ := List.forall₂_cons_left_iff.1 htaken
    obtain ⟨share', rest', hshare', hrest', rfl⟩ := List.forall₂_cons_left_iff.1 htaken'
    rw [List.flatten_cons, List.flatten_cons] at hwhole
    have hfirst : share' = share ∧ rest'.flatten = rest.flatten := by
      cases part with
      | literal literal => exact beginning_unique hwhole hshare' hshare
      | parameter p =>
        -- a parameter takes everything up to the next literal
        cases s with
        | nil =>
          cases hrest
          cases hrest'
          simpa using hwhole
        | cons next s =>
          cases next with
          | literal literal =>
            have hnext := hstarts 1 literal rfl
            rw [shareStart_succ, shareStart_succ] at hnext
            exact List.append_inj hwhole (Nat.add_right_cancel hnext).symm
          | parameter q => exact absurd (List.isChain_cons_cons.1 hturn).1 id
    obtain ⟨rfl, hflatten⟩ := hfirst
    rw [ih hturn.tail ⟨hrest, rfl⟩ ⟨hrest', hflatten⟩ fun i literal hi => ?_]
    have hstart := hstarts (i + 1) literal hi
    rw [shareStart_succ, shareStart_succ] at hstart
    exact Nat.add_left_cancel hstart

/-- There is only one way in which each literal starts furthest to the right. -/
theorem Rightmost.eq (hturn : s.IsChain Part.DiffersFrom) (h : s.Rightmost text shares)
    (h' : s.Rightmost text shares') : shares' = shares := by
  refine h'.divides.eq_of_starts hturn h.divides fun i literal hi => ?_
  have hle := h.furthest shares' h'.divides i literal hi
  have hge := h'.furthest shares h.divides i literal hi
  rw [Nat.zero_add] at hle hge
  exact Nat.le_antisymm hle hge

/-! ### What is stored -/

theorem mem_named {p : Parameter} {share : List Char} :
    (p, share) ∈ s.named shares ↔ (Part.parameter p, share) ∈ s.zip shares := by
  rw [named, List.mem_filterMap]
  constructor
  · rintro ⟨⟨part, share'⟩, hmem, hpart⟩
    cases part with
    | literal literal => cases hpart
    | parameter q =>
      cases hpart
      exact hmem
  · exact fun hmem => ⟨_, hmem, rfl⟩

/-- Each parameter has one share. -/
theorem map_fst_named (hlength : shares.length = s.length) :
    (s.named shares).map Prod.fst = parameters s := by
  rw [named, List.map_filterMap, parameters]
  conv_rhs => rw [← List.map_fst_zip hlength.ge, List.filterMap_map]
  congr 1
  funext x
  obtain ⟨part, share⟩ := x
  cases part <;> rfl

/-- Binding each parameter to its share stores the shares if no two parameters have one name. -/
theorem stores_bindFitted (vs : Bindings) (hlength : shares.length = s.length)
    (hnames : ((parameters s).map (fold ·.name)).Nodup) :
    s.Stores vs shares (bindFitted vs (s.named shares).reverse) := by
  let toBinding (x : Parameter × List Char) : Binding := ⟨x.1.name, String.ofList x.2⟩
  have hbind : bindFitted vs (s.named shares).reverse =
      SortedBy.insertAll ((s.named shares).map toBinding).reverse vs := by
    rw [bindFitted, SortedBy.insertAll, ← List.map_reverse, List.foldl_map]
    rfl
  have hkeys : ((s.named shares).map toBinding).map Binding.key =
      (parameters s).map (fold ·.name) := by
    rw [← map_fst_named hlength, List.map_map, List.map_map]
    rfl
  have hnodup : (((s.named shares).map toBinding).reverse.map Binding.key).Nodup := by
    rw [List.map_reverse, List.nodup_reverse, hkeys]
    exact hnames
  intro b
  rw [hbind, SortedBy.mem_insertAll hnodup, List.mem_reverse]
  refine or_congr ?_ (and_congr_right fun _ => ?_)
  · rw [List.mem_map]
    constructor
    · rintro ⟨⟨p, share⟩, hmem, rfl⟩
      exact ⟨p, share, mem_named.1 hmem, rfl⟩
    · rintro ⟨p, share, hmem, rfl⟩
      exact ⟨(p, share), mem_named.2 hmem, rfl⟩
  · constructor
    · intro hne p hp
      rw [← mem_parameters_iff, ← map_fst_named hlength] at hp
      obtain ⟨x, hx, rfl⟩ := List.mem_map.1 hp
      exact hne (toBinding x) (List.mem_reverse.2 (List.mem_map_of_mem hx))
    · intro hne b' hb'
      obtain ⟨x, hx, rfl⟩ := List.mem_map.1 (List.mem_reverse.1 hb')
      refine hne x.1 ?_
      rw [← mem_parameters_iff, ← map_fst_named hlength]
      exact List.mem_map_of_mem hx

end Segment

/-- The parameters of a segment of a template that has been read have different names. -/
theorem Template.Sound.names_of_mem {t : Template} (h : t.Sound) {s : Segment}
    (hs : s ∈ t.segments) : ((Segment.parameters s).map (fold ·.name)).Nodup := by
  have hsublist : (Segment.parameters s).Sublist t.parameters := by
    rw [Template.parameters, List.flatMap]
    exact List.sublist_flatten_of_mem (List.mem_map_of_mem hs)
  exact h.names.sublist (hsublist.map _)

/-- **A segment takes a piece in one way only**: it is divided so that each literal starts furthest
to the right, and the values afterwards are the shares of the parameters and what was bound to other
names. A segment that does not take the piece changes no value. In both cases the fitting finds
every slice of the piece that it asks for. -/
theorem Segment.takePiece?_rightmost {text : String} {t : Template}
    (hparse : Template.parse text = .ok t) {s : Segment} (hs : s ∈ t.segments) (vs : Bindings)
    (piece : String) :
    (fitParts s piece = none ∧ takePiece? vs s piece = some (false, vs)) ∨
    ∃ fitted shares, fitParts s piece = some fitted ∧
      takePiece? vs s piece = some (true, bindFitted vs fitted) ∧
      s.Rightmost piece.toList shares ∧
      (∀ shares', s.Rightmost piece.toList shares' → shares' = shares) ∧
      s.Stores vs shares (bindFitted vs fitted) := by
  obtain ⟨ls, hread⟩ := Template.exists_readFrom_of_parse hparse hs
  have haccepted := hread.accepted
  have htake := takePiece?_eq vs s piece
  cases hfit : fitParts s piece with
  | none =>
    rw [hfit] at htake
    exact Or.inl ⟨rfl, htake⟩
  | some fitted =>
    rw [hfit] at htake
    obtain ⟨shares, hdivides, rfl, hlast⟩ :=
      exists_divides_of_fitFromRight haccepted.searchable hfit
    rw [partsUpTo_reverse] at hdivides hlast htake ⊢
    have hrightmost : s.Rightmost piece.toList shares :=
      ⟨hdivides, fun shares' h => hlast [] _ _ (sharedWithin h rfl)⟩
    exact Or.inr ⟨_, shares, rfl, htake, hrightmost, fun _ => hrightmost.eq haccepted.inTurn,
      stores_bindFitted vs hdivides.length_eq ((parameters_of_parse hparse).names_of_mem hs)⟩

/-- The template `files/{name}.{ext}` stores `report.final` and `pdf`, not `report` and
`final.pdf`. -/
theorem Segment.takePiece?_rightmost_sample :
    ∃ t s shares values, Template.parse "files/\x7bname\x7d.\x7bext\x7d" = .ok t ∧
      s ∈ t.segments ∧ takePiece? .empty s "report.final.pdf" = some (true, values) ∧
      s.Rightmost "report.final.pdf".toList shares ∧
      values.toPairs = [("ext", "pdf"), ("name", "report.final")] := by
  let name : Parameter := { name := "name" }
  let ext : Parameter := { name := "ext" }
  let s : Segment := [.parameter name, .literal ".", .parameter ext]
  have hparse : Template.parse "files/\x7bname\x7d.\x7bext\x7d" =
      .ok { text := "files/\x7bname\x7d.\x7bext\x7d", segments := [[.literal "files"], s] } := by
    decide +kernel
  have hfit : fitParts s "report.final.pdf" =
      some [(ext, "pdf".toList), (name, "report.final".toList)] := by
    decide +kernel
  rcases Segment.takePiece?_rightmost hparse (s := s) (by simp) .empty "report.final.pdf" with
    ⟨hnone, -⟩ | ⟨fitted, shares, hfitted, htake, hrightmost, -, -⟩
  · rw [hfit] at hnone
    cases hnone
  · rw [hfit] at hfitted
    cases hfitted
    exact ⟨_, s, shares, _, hparse, by simp, htake, hrightmost, by decide +kernel⟩

end UrlRouting

import Mathlib.Data.List.Forall2
import UrlRouting.Proofs.Template.ParameterText

/-!
# The grammar of templates

`Segment.Grammar` says, rule by rule, which lexemes spell the parts of a segment. A template that
has been read is spelled by the segments that its lexemes are cut into
(`Template.readFrom_of_parse`), so that what reading guarantees is an induction over these rules.
-/

namespace UrlRouting

open Lexeme

/-! ### Segments -/

/-- The lexemes that spell the parts of a segment. -/
inductive Segment.Grammar : List Lexeme → Segment → Prop where
  /-- Nothing spells no part. -/
  | nil : Grammar [] []
  /-- Literal text goes on up to a parameter or the end of the segment. -/
  | literal {text : List Char} {ls : List Lexeme} {s : Segment} (hne : text ≠ [])
      (hnext : ∀ text', s.head? ≠ some (.literal text')) (hs : Grammar ls s) :
      Grammar (text.map ofLiteral ++ ls) (.literal (String.ofList text) :: s)
  /-- A parameter stands between single braces; braces inside of it are written twice. -/
  | parameter {body rest : List Char} {p : Parameter} {ls : List Lexeme} {s : Segment}
      (hp : p.ReadFrom body rest) (hs : Grammar ls s) :
      Grammar (single .left :: (body.map ofLiteral ++ single .right :: ls)) (.parameter p :: s)

/-- A segment as it is read from some lexemes. -/
structure Segment.ReadFrom (ls : List Lexeme) (s : Segment) : Prop where
  /-- There are lexemes. -/
  nonEmpty : ls ≠ []
  /-- They come from a text. -/
  proper : Proper ls
  /-- They make one segment. -/
  uncut : Uncut false ls
  /-- They spell the parts of the segment. -/
  grammar : Segment.Grammar ls s
  /-- The parts may share a segment. -/
  faultless : ∀ raw, complexError? raw s = none

theorem ofLiteral_of_brace? {c : Char} (h : brace? c = none) : ofLiteral c = plain c := by
  simp [ofLiteral, h]

theorem ofLiteral_char (b : Brace) : ofLiteral b.char = doubled b := by
  simp [ofLiteral]

/-- The inside of a parameter is cut off at its right brace. -/
theorem eq_of_cutBody {ls left : List Lexeme} {body : List Char} (hproper : Proper ls)
    (h : cutBody ls = some (body, left)) : ls = body.map ofLiteral ++ single .right :: left := by
  induction ls generalizing body left with
  | nil => cases h
  | cons l ls ih =>
    cases l with
    | single b =>
      cases b with
      | left => cases h
      | right =>
        cases h
        rfl
    | doubled b =>
      obtain ⟨⟨body', left'⟩, hcut, heq⟩ := Option.map_eq_some_iff.1 h
      cases heq
      rw [ih hproper hcut, List.map_cons, ofLiteral_char]
      rfl
    | plain c =>
      obtain ⟨⟨body', left'⟩, hcut, heq⟩ := Option.map_eq_some_iff.1 h
      cases heq
      rw [ih hproper.2 hcut, List.map_cons, ofLiteral_of_brace? hproper.1]
      rfl

theorem Segment.Grammar.consLiteral {ls : List Lexeme} {s : Segment} (h : Segment.Grammar ls s)
    (hnext : ∀ text', s.head? ≠ some (.literal text')) (text : List Char) :
    Segment.Grammar (text.map ofLiteral ++ ls) (consLiteral text s) := by
  by_cases hne : text = []
  · subst hne
    exact h
  · have hnonEmpty : text.isEmpty = false := by simpa using hne
    rw [UrlRouting.consLiteral, hnonEmpty, if_neg Bool.false_ne_true]
    exact .literal hne hnext h

/-- The lexemes of a segment spell the parts that are read from them; `text` is the literal text
read before them. -/
theorem grammar_of_readParts {raw : String} {text : List Char} {ls : List Lexeme} {s : Segment}
    (hproper : Proper ls) (h : readParts raw text ls = .ok s) :
    Segment.Grammar (text.map ofLiteral ++ ls) s := by
  fun_induction readParts raw text ls generalizing s with
  | case1 text =>
    obtain rfl := Except.ok.inj h
    exact Segment.Grammar.nil.consLiteral nofun text
  | case2 text c ls ih =>
    have hrest := ih hproper.2 h
    rw [List.map_append, List.append_assoc] at hrest
    simpa [ofLiteral_of_brace? hproper.1] using hrest
  | case3 text b ls ih =>
    have hrest := ih hproper h
    rw [List.map_append, List.append_assoc] at hrest
    simpa [ofLiteral_char] using hrest
  | case4 | case5 | case6 | case7 => cases h
  | case8 text ls body left hbody hlt p hp parts hparts ih =>
    obtain rfl := Except.ok.inj h
    have hls := eq_of_cutBody hproper.2 hbody
    have hleft : Proper left := by
      have hproper' := hproper.2
      rw [hls] at hproper'
      exact hproper'.of_append_right.2
    obtain ⟨rest, hread⟩ := exists_readFrom hp
    have hs : Segment.Grammar (single .left :: ls) (.parameter p :: parts) := by
      rw [hls]
      exact .parameter hread (ih hleft hparts)
    exact hs.consLiteral nofun text

/-- Which faults the parts of a segment have does not depend on its text. -/
theorem complexError?_eq_none_of {raw : String} {s : Segment} (h : complexError? raw s = none)
    (raw' : String) : complexError? raw' s = none := by
  unfold complexError? at h ⊢
  split
  · rfl
  next hlength =>
    rw [if_neg hlength] at h
    split at h
    · cases h
    · split at h
      · cases h
      next hadjacent => exact if_neg hadjacent

/-- A segment that is read is spelled by its lexemes. -/
theorem readFrom_of_readSegment {ls : List Lexeme} {s : Segment} (hproper : Proper ls)
    (huncut : Uncut false ls) (h : readSegment ls = .ok s) : Segment.ReadFrom ls s := by
  simp only [readSegment] at h
  split at h
  · cases h
  next hne =>
    split at h
    · cases h
    next parts hparts =>
      split at h
      · cases h
      next hfaultless =>
        obtain rfl := Except.ok.inj h
        exact ⟨by simpa using hne, hproper, huncut, grammar_of_readParts hproper hparts,
          complexError?_eq_none_of hfaultless⟩

/-! ### Templates -/

/-- Segments that are read are spelled by their lexemes, one after the other. -/
theorem readFrom_of_readSegments {lss : List (List Lexeme)} {segments : List Segment}
    (hlss : ∀ ls ∈ lss, Proper ls ∧ Uncut false ls) (h : readSegments lss = .ok segments) :
    List.Forall₂ Segment.ReadFrom lss segments := by
  induction lss generalizing segments with
  | nil =>
    obtain rfl := Except.ok.inj h
    exact .nil
  | cons ls lss ih =>
    obtain ⟨⟨hproper, huncut⟩, hlss⟩ := List.forall_mem_cons.1 hlss
    simp only [readSegments] at h
    split at h
    · cases h
    next s hs =>
      split at h
      · cases h
      next others hothers =>
        obtain rfl := Except.ok.inj h
        exact .cons (readFrom_of_readSegment hproper huncut hs) (ih hlss hothers)

/-- What is cut from proper lexemes is proper. -/
theorem proper_of_mem_splitSegments {ls segment : List Lexeme} (hproper : Proper ls)
    (h : segment ∈ splitSegments false ls) : Proper segment := by
  have hjoin := intercalate_splitSegments false ls
  generalize splitSegments false ls = segments at h hjoin
  subst hjoin
  induction segments with
  | nil => cases h
  | cons first segments ih =>
    cases segments with
    | nil =>
      obtain rfl := List.mem_singleton.1 h
      simpa using hproper
    | cons second segments =>
      rw [List.intercalate_cons_cons, List.append_assoc] at hproper
      rcases List.mem_cons.1 h with rfl | h
      · exact hproper.of_append_left
      · exact ih h hproper.of_append_right.2

/-- A template that is read has no fault, and its segments are read from what its lexemes are cut
into. -/
theorem Template.readFrom_of_parse {text : String} {t : Template}
    (h : Template.parse text = .ok t) :
    segmentsError? [] t.segments = none ∧ (t.segments = [] ∨
      List.Forall₂ Segment.ReadFrom (splitSegments false (scan (trimTemplate text.toList)))
        t.segments) := by
  simp only [Template.parse] at h
  split at h
  · obtain rfl := Except.ok.inj h
    exact ⟨rfl, Or.inl rfl⟩
  · split at h
    · cases h
    next segments hsegments =>
      split at h
      · cases h
      next hfaultless =>
        obtain rfl := Except.ok.inj h
        have hproper := proper_scan (trimTemplate text.toList)
        obtain ⟨first, others, hsplit, hfirst, hothers⟩ :=
          uncut_splitSegments false (scan (trimTemplate text.toList))
        have huncut : ∀ ls ∈ splitSegments false (scan (trimTemplate text.toList)),
            Uncut false ls := by
          rw [hsplit]
          exact List.forall_mem_cons.2 ⟨hfirst, hothers⟩
        refine ⟨hfaultless, Or.inr (readFrom_of_readSegments (fun ls hls => ?_) hsegments)⟩
        exact ⟨proper_of_mem_splitSegments hproper hls, huncut ls hls⟩

/-- Each segment of a template that is read is read from some lexemes. -/
theorem Template.exists_readFrom_of_parse {text : String} {t : Template}
    (h : Template.parse text = .ok t) {s : Segment} (hs : s ∈ t.segments) :
    ∃ ls, Segment.ReadFrom ls s := by
  rcases (Template.readFrom_of_parse h).2 with hnil | hread
  · rw [hnil] at hs
    cases hs
  · generalize splitSegments false (scan (trimTemplate text.toList)) = lss at hread
    generalize t.segments = segments at hread hs
    induction hread with
    | nil => cases hs
    | cons hfirst hothers ih =>
      rcases List.mem_cons.1 hs with rfl | hs
      · exact ⟨_, hfirst⟩
      · exact ih hs

end UrlRouting

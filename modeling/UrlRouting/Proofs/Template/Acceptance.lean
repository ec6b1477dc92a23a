import Mathlib.Data.List.Chain
import UrlRouting.Proofs.Template.Parameters
import UrlRouting.Proofs.Template.SegmentText
import UrlRouting.Proofs.Text.Folding

/-!
# What reading a template guarantees

Every template that has been read is `Template.Accepted` (`Template.accepted_of_parse`): its
segments are made of literals and parameters in turn, no literal holds a slash, no two names agree
up to case, a catch-all ends the template and an optional parameter has its segment for itself. The
trie of templates, the fitting of paths and the writing of links count on all this and do not check
it.

That no literal holds a slash comes from the cutting into segments, which knows only whether a
parameter is open (`Lexeme.Uncut`), while literals are gathered by the reading of a segment: both
agree at each lexeme on what is inside of a parameter (`Segment.Grammar.literal_of_mem`).
-/

namespace UrlRouting

open Lexeme Text

/-- A literal beside a parameter, in either order. -/
def Part.DiffersFrom : Part → Part → Prop
  | .literal _, .parameter _ => True
  | .parameter _, .literal _ => True
  | .literal _, .literal _ => False
  | .parameter _, .parameter _ => False

/-- A parameter as reading makes it. -/
structure Parameter.Accepted (p : Parameter) : Prop where
  /-- It has a name. -/
  name : p.name ≠ ""
  /-- No character of the name is a delimiter. -/
  delimiters : ∀ c ∈ p.name.toList, c ∉ nameDelimiters
  /-- Each constraint has some text. -/
  constraints : ∀ c ∈ p.constraints, c.text ≠ ""

/-- A segment as reading makes it. -/
structure Segment.Accepted (s : Segment) : Prop where
  /-- It has a part. -/
  nonEmpty : s ≠ []
  /-- Literals and parameters stand in turn. -/
  inTurn : s.IsChain Part.DiffersFrom
  /-- Each literal has some text, and no slash. -/
  literals : ∀ text, .literal text ∈ s → text ≠ "" ∧ '/' ∉ text.toList
  /-- Each parameter is one that reading makes. -/
  parameters : ∀ p, .parameter p ∈ s → p.Accepted

/-- A template as reading makes it. -/
structure Template.Accepted (t : Template) : Prop where
  /-- Each segment is one that reading makes. -/
  segments : ∀ s ∈ t.segments, s.Accepted
  /-- No two names agree up to case. -/
  names : t.parameters.Pairwise fun p q => sameText p.name q.name = false
  /-- A catch-all is the last segment, and it is not optional. -/
  catchAll : ∀ s ∈ t.segments, ∀ p, .parameter p ∈ s → p.isCatchAll →
    s = [.parameter p] ∧ t.segments.getLast? = some s ∧ p.isOptional = false
  /-- An optional parameter is a segment, and it has no default. -/
  optional : ∀ s ∈ t.segments, ∀ p, .parameter p ∈ s → p.isOptional →
    s = [.parameter p] ∧ p.default? = none

/-! ### Parameters -/

/-- Reading makes no empty constraints. -/
theorem ne_empty_of_readTail {cs : List Char} {constraints : List InlineConstraint}
    {default? : Option String} (h : readTail cs = (constraints, default?)) :
    ∀ c ∈ constraints, c.text ≠ "" := by
  fun_induction readTail cs generalizing constraints default? with
  | case1 rest hlength others given hothers text =>
    rename_i ih
    rw [Prod.mk.injEq] at h
    obtain ⟨rfl, -⟩ := h
    by_cases hempty : text.isEmpty
    · rw [if_pos hempty]
      exact ih hothers
    · rw [if_neg hempty]
      refine List.forall_mem_cons.2 ⟨?_, ih hothers⟩
      simpa using hempty
  | case2 value =>
    rw [Prod.mk.injEq] at h
    obtain ⟨rfl, -⟩ := h
    exact List.forall_mem_nil _
  | case3 cs hcolon hequals =>
    rw [Prod.mk.injEq] at h
    obtain ⟨rfl, -⟩ := h
    exact List.forall_mem_nil _

theorem Parameter.ReadFrom.accepted {p : Parameter} {body rest : List Char}
    (h : p.ReadFrom body rest) : p.Accepted where
  name := h.name
  delimiters := h.delimiters
  constraints := ne_empty_of_readTail h.tail

/-! ### Segments -/

theorem hasAdjacentParameters_of_cons {part : Part} {s : Segment}
    (h : hasAdjacentParameters (part :: s) = false) : hasAdjacentParameters s = false := by
  unfold hasAdjacentParameters at h
  split at h
  · cases h
  next heq =>
    obtain ⟨-, rfl⟩ := List.cons.inj heq
    exact h
  next heq => cases heq

/-- A segment that begins with a literal is spelled with the first character of the literal
first. -/
theorem Segment.Grammar.head?_spell {ls : List Lexeme} {text : String} {s : Segment}
    (h : Segment.Grammar ls (.literal text :: s)) : (spell ls).head? = text.toList.head? := by
  cases h with
  | @literal cs ls _ hne hnext hs =>
    have hne' : String.ofList cs ≠ "" := by simpa using hne
    have hhead := Part.head?_literal hne' ls
    rw [Part.lexemes, String.toList_ofList] at hhead
    rw [hhead, String.toList_ofList]

/-- What lexemes spell may stand side by side. -/
theorem Segment.Grammar.neighbours {ls : List Lexeme} {s : Segment} (h : Segment.Grammar ls s)
    (hproper : Proper ls) (hadjacent : hasAdjacentParameters s = false) :
    s.IsChain Part.MayPrecede := by
  induction h with
  | nil => exact .nil
  | @literal cs ls s hne hnext hs ih =>
    refine (ih hproper.of_append_right (hasAdjacentParameters_of_cons hadjacent)).cons ?_
    intro part hpart
    cases part with
    | literal text => exact hnext text hpart
    | parameter p => trivial
  | @parameter body rest p ls s hp hs ih =>
    have hright : Proper (single .right :: ls) := hproper.2.of_append_right
    refine (ih hright.2 (hasAdjacentParameters_of_cons hadjacent)).cons ?_
    intro part hpart
    obtain ⟨others, rfl⟩ := List.head?_eq_some_iff.1 hpart
    cases part with
    | literal text =>
      -- A right brace that is followed by another one does not close the parameter.
      intro hbrace
      exact hright.1 (hs.head?_spell.trans hbrace)
    | parameter q => cases hadjacent

theorem Part.MayPrecede.differsFrom {part part' : Part} (h : part.MayPrecede part') :
    part.DiffersFrom part' := by
  cases part with
  | literal text =>
    cases part' with
    | literal text' => exact h
    | parameter q => trivial
  | parameter p =>
    cases part' with
    | literal text' => trivial
    | parameter q => exact h

/-- A parameter that is a catch-all or optional shares its segment with no other part. -/
theorem eq_singleton_of_complexError? {raw : String} {s : Segment} {p : Parameter}
    (h : complexError? raw s = none) (hp : .parameter p ∈ s) (hkind : p.isCatchAll ∨ p.isOptional) :
    s = [.parameter p] := by
  unfold complexError? at h
  split at h
  next hlength =>
    have hpos := List.length_pos_of_mem hp
    obtain ⟨part, rfl⟩ := List.length_eq_one_iff.1 (by omega : s.length = 1)
    rw [List.mem_singleton.1 hp]
  next =>
    split at h
    · cases h
    next hshared =>
      rw [List.findSome?_eq_none_iff] at hshared
      have hnone := hshared p (Segment.mem_parameters_iff.2 hp)
      unfold sharingError? at hnone
      split at hnone
      · cases hnone
      next hcatchAll =>
        rw [if_pos (hkind.resolve_left hcatchAll)] at hnone
        cases hnone

namespace Segment.ReadFrom

variable {ls : List Lexeme} {s : Segment}

theorem neighbours (h : Segment.ReadFrom ls s) : s.IsChain Part.MayPrecede :=
  h.grammar.neighbours h.proper (hasAdjacentParameters_of_complexError? (h.faultless ""))

theorem accepted (h : Segment.ReadFrom ls s) : s.Accepted where
  nonEmpty := by
    rintro rfl
    have hgrammar := h.grammar
    cases hgrammar with
    | nil => exact h.nonEmpty rfl
  inTurn := h.neighbours.imp fun _ _ hmay => hmay.differsFrom
  literals := fun _ hmem => h.grammar.literal_of_mem h.uncut hmem
  parameters := by
    intro p hp
    obtain ⟨body, rest, hread⟩ := h.grammar.parameter_of_mem hp
    exact hread.accepted

end Segment.ReadFrom

/-! ### Templates -/

/-- A catch-all stands in the last segment. -/
theorem CatchAllLast.getLast? {segments : List Segment} (h : CatchAllLast segments)
    {p : Parameter} (hmem : [.parameter p] ∈ segments) (hp : p.isCatchAll) :
    segments.getLast? = some [.parameter p] := by
  rcases List.eq_nil_or_concat segments with rfl | ⟨front, last, rfl⟩
  · cases hmem
  · rw [List.concat_eq_append] at h hmem ⊢
    rcases List.mem_append.1 hmem with hfront | hlast
    · have hnot := h [.parameter p] (by simpa using hfront) p rfl
      rw [hp] at hnot
      cases hnot
    · rw [List.getLast?_concat, List.mem_singleton.1 hlast]

/-- **What reading accepts is well-formed**: each segment has a part, literals and parameters stand
in turn, literals have some text and no slash, names are not empty, hold no delimiter and differ
from each other up to case, a catch-all is the last segment and not optional, an optional parameter
is a segment without a default, and no constraint is empty. -/
theorem Template.accepted_of_parse {text : String} {t : Template}
    (h : Template.parse text = .ok t) : t.Accepted where
  segments := by
    intro s hs
    obtain ⟨ls, hread⟩ := Template.exists_readFrom_of_parse h hs
    exact hread.accepted
  names := by
    have hnodup := (parameters_of_parse h).names
    rw [List.Nodup, List.pairwise_map] at hnodup
    refine hnodup.imp fun {p q} hne => ?_
    rw [Bool.eq_false_iff]
    exact fun hsame => hne (sameText_iff.1 hsame)
  catchAll := by
    intro s hs p hp hcatchAll
    obtain ⟨ls, hread⟩ := Template.exists_readFrom_of_parse h hs
    obtain ⟨body, rest, hparameter⟩ := hread.grammar.parameter_of_mem hp
    have hsole := eq_singleton_of_complexError? (hread.faultless "") hp (Or.inl hcatchAll)
    subst hsole
    refine ⟨rfl, (parameters_of_parse h).catchAll.getLast? hs hcatchAll, ?_⟩
    cases hoptional : p.isOptional with
    | false => rfl
    | true =>
      have hnot := (hparameter.optional hoptional).1
      rw [hcatchAll] at hnot
      cases hnot
  optional := by
    intro s hs p hp hoptional
    obtain ⟨ls, hread⟩ := Template.exists_readFrom_of_parse h hs
    obtain ⟨body, rest, hparameter⟩ := hread.grammar.parameter_of_mem hp
    exact ⟨eq_singleton_of_complexError? (hread.faultless "") hp (Or.inr hoptional),
      (hparameter.optional hoptional).2⟩

/-- A slash stands in no literal, also where braces and slashes are mixed. -/
theorem Template.accepted_of_parse_sample :
    ∃ t, Template.parse "~/a\x7b\x7b\x7bb::int=/\x7d.\x7d\x7d/\x7bc?\x7d/\x7b*d:x(/)\x7d" = .ok t ∧
      t.Accepted := by
  have hparse : ∃ t,
      Template.parse "~/a\x7b\x7b\x7bb::int=/\x7d.\x7d\x7d/\x7bc?\x7d/\x7b*d:x(/)\x7d" = .ok t :=
    ⟨{ text := "a\x7b\x7b\x7bb::int=/\x7d.\x7d\x7d/\x7bc?\x7d/\x7b*d:x(/)\x7d"
       segments := [
        [.literal "a\x7b",
          .parameter { name := "b", default? := some "/", constraints := [⟨"int"⟩] },
          .literal ".\x7d"],
        [.parameter { name := "c", isOptional := true }],
        [.parameter { name := "d", isCatchAll := true, constraints := [⟨"x(/)"⟩] }]] },
      by decide +kernel⟩
  obtain ⟨t, ht⟩ := hparse
  exact ⟨t, ht, Template.accepted_of_parse ht⟩

end UrlRouting

import Mathlib.Algebra.GroupWithZero.Nat
import UrlRouting.Proofs.Template.Acceptance
import UrlRouting.Proofs.Template.Rendering

/-!
# Rendering a template that has been read

A template that has been read is rendered as a text that is read as the same segments exactly if it
is `Template.Rereadable` (`Template.rereads_iff`): no constraint and no default holds a brace, no
parameter is mistaken for an optional one, and no tilde stands in front. Braces are written twice in
literals only.

That nothing less will do is a matter of length. Rendering never makes a text longer, and it makes
it shorter by at least what `Parameter.excess` counts (`Template.length_text_le`). A text that is
read as the segments that it was rendered for has nothing to lose.
-/

namespace UrlRouting

open Lexeme Text

/-! ### Constraints and defaults -/

theorem cutConstraint_fst_append_snd (depth : Nat) (cs : List Char) :
    (cutConstraint depth cs).1 ++ (cutConstraint depth cs).2 = cs := by
  induction cs generalizing depth with
  | nil => rfl
  | cons c cs ih =>
    simp only [cutConstraint]
    split
    · rfl
    · exact congrArg (c :: ·) (ih _)

/-- A constraint that has been cut off is cut off again in front of what ends a constraint. A
constraint that leaves a parenthesis open goes on to the end, where nothing may follow it. -/
theorem cutConstraint_again {depth : Nat} {cs rest : List Char}
    (hrest : ∀ c, rest.head? = some c → c = ':' ∨ c = '=')
    (hend : (cutConstraint depth cs).2 = [] → rest = []) :
    cutConstraint depth ((cutConstraint depth cs).1 ++ rest) = ((cutConstraint depth cs).1, rest) := by
  induction cs generalizing depth with
  | nil =>
    obtain rfl := hend rfl
    rfl
  | cons c cs ih =>
    simp only [cutConstraint] at hend ⊢
    split at hend
    next hstop =>
      rw [if_pos hstop, List.nil_append]
      cases rest with
      | nil => rfl
      | cons d rest => rw [cutConstraint, if_pos ⟨hrest d rfl, hstop.2⟩]
    next hgo =>
      rw [if_neg hgo, List.cons_append, cutConstraint, if_neg hgo]
      dsimp only
      rw [ih hend]

/-- A constraint is read again in front of a part of what it was followed by. -/
theorem readTail_colon_again {rest suffix : List Char}
    (hsublist : suffix.Sublist (cutConstraint 0 rest).2)
    (hhead : ∀ c, suffix.head? = some c → c = ':' ∨ c = '=')
    (hne : ¬ (cutConstraint 0 rest).1.isEmpty) :
    (':' :: ((cutConstraint 0 rest).1 ++ suffix)).Sublist (':' :: rest) ∧
    readTail (':' :: ((cutConstraint 0 rest).1 ++ suffix)) =
      (⟨String.ofList (cutConstraint 0 rest).1⟩ :: (readTail suffix).1, (readTail suffix).2) := by
  have hcut : cutConstraint 0 ((cutConstraint 0 rest).1 ++ suffix) =
      ((cutConstraint 0 rest).1, suffix) := by
    refine cutConstraint_again hhead fun hnil => ?_
    rw [hnil] at hsublist
    exact List.sublist_nil.1 hsublist
  constructor
  · have hparts := (List.Sublist.refl (cutConstraint 0 rest).1).append hsublist
    rw [cutConstraint_fst_append_snd] at hparts
    exact hparts.cons_cons ':'
  · rw [readTail, hcut]
    dsimp only
    rw [if_neg hne]

/-- What is rendered for constraints and a default that have been read is part of what they were
read from, and it is read as the same. -/
theorem readTail_again {cs : List Char} {p : Parameter}
    (h : readTail cs = (p.constraints, p.default?)) :
    p.suffix.Sublist cs ∧ readTail p.suffix = (p.constraints, p.default?) := by
  fun_induction readTail cs generalizing p with
  | case1 rest hlength others given hothers text =>
    rename_i ih
    rw [Prod.mk.injEq] at h
    obtain ⟨hconstraints, hdefault⟩ := h
    -- The parameter without its first constraint, if this one is not empty.
    let q : Parameter := { p with constraints := others, default? := given }
    obtain ⟨hsublist, hagain⟩ : q.suffix.Sublist _ ∧ readTail q.suffix = (others, given) :=
      ih hothers
    by_cases hempty : text.isEmpty
    · rw [if_pos hempty] at hconstraints
      have hp : p = q := by simp only [q, hconstraints, hdefault]
      have hleft := List.sublist_append_right text (cutConstraint 0 rest).2
      rw [cutConstraint_fst_append_snd] at hleft
      rw [hp]
      exact ⟨(hsublist.trans hleft).cons _, hagain⟩
    · rw [if_neg hempty] at hconstraints
      have hwritten : p.suffix = ':' :: (text ++ q.suffix) := by
        rw [Parameter.suffix, ← hconstraints, ← hdefault, List.flatMap_cons,
          String.toList_ofList, List.append_assoc]
        rfl
      obtain ⟨hsublist', hread⟩ :=
        readTail_colon_again hsublist (fun _ hc => q.head?_suffix hc) hempty
      rw [hwritten]
      exact ⟨hsublist', by rw [hread, hagain, ← hconstraints, ← hdefault]⟩
  | case2 value =>
    rw [Prod.mk.injEq] at h
    have hwritten : p.suffix = '=' :: value := by
      rw [Parameter.suffix, ← h.1, ← h.2, List.flatMap_nil, List.nil_append]
      simp
    rw [hwritten, ← h.1, ← h.2]
    exact ⟨List.Sublist.refl _, by rw [readTail]⟩
  | case3 cs hcolon hequals =>
    rw [Prod.mk.injEq] at h
    have hwritten : p.suffix = [] := by
      rw [Parameter.suffix, ← h.1, ← h.2]
      rfl
    rw [hwritten, ← h.1, ← h.2]
    exact ⟨List.nil_sublist _, by simp [readTail]⟩

/-! ### What survives -/

/-- A parameter that is read from what is rendered for it, if it has been read at all. -/
structure Parameter.Rereadable (p : Parameter) : Prop where
  /-- No brace stands in a constraint or a default. -/
  braces : ∀ c ∈ p.suffix, brace? c = none
  /-- It is not mistaken for an optional parameter. -/
  unmarked : p.isOptional = false → p.suffix.getLast? ≠ some '?'

/-- Segments that are read from what is rendered for them, if they have been read at all. -/
structure Template.Rereadable (segments : List Segment) : Prop where
  /-- Each parameter is read again. -/
  parameters : ∀ s ∈ segments, ∀ p, .parameter p ∈ s → p.Rereadable
  /-- The template does not begin with a tilde, which would not count. -/
  tilde : ∀ text s rest, segments = (.literal text :: s) :: rest → text.toList.head? ≠ some '~'

theorem Parameter.ReadFrom.again {p : Parameter} {body rest : List Char} (h : p.ReadFrom body rest)
    (hunmarked : p.isOptional = false → p.suffix.getLast? ≠ some '?') :
    p.ReadFrom p.body p.suffix where
  spelled := rfl
  name := h.name
  delimiters := h.delimiters
  follows := fun _ hc => p.head?_suffix hc
  tail := (readTail_again h.tail).2
  optional := h.optional
  unmarked := hunmarked

theorem Segment.ReadFrom.legible {ls : List Lexeme} {s : Segment} (h : Segment.ReadFrom ls s)
    (hparameters : ∀ p, .parameter p ∈ s → p.Rereadable) : s.Legible where
  nonEmpty := h.accepted.nonEmpty
  parts := by
    intro part hpart
    cases part with
    | literal text => exact h.accepted.literals text hpart
    | parameter p =>
      obtain ⟨body, rest, hread⟩ := h.grammar.parameter_of_mem hpart
      have hp := hparameters p hpart
      exact (hread.again hp.unmarked).legible hp.braces
  neighbours := h.neighbours
  faultless := h.faultless

/-- Rereadable segments that have been read are read again from what is rendered for them. -/
theorem Template.parse_of_rereadable {text : String} {t : Template}
    (h : Template.parse text = .ok t) (hrereadable : Template.Rereadable t.segments) :
    Template.parse (Template.ofSegments t.segments).text = .ok (Template.ofSegments t.segments) := by
  refine Template.parse_of_legible (fun s hs => ?_) (Template.readFrom_of_parse h).1
    hrereadable.tilde
  obtain ⟨ls, hread⟩ := Template.exists_readFrom_of_parse h hs
  exact hread.legible (hrereadable.parameters s hs)

/-! ### What rendering loses -/

/-- The number of braces in a text. -/
def braceCount (cs : List Char) : Nat := cs.countP fun c => (brace? c).isSome

/-- What is rendered for a parameter is shorter by at least this than what it was read from: each
brace of a constraint or a default was written twice, and behind a question mark that does not mark
the parameter as optional there was an empty constraint. -/
def Parameter.excess (p : Parameter) : Nat :=
  braceCount p.suffix + if p.isOptional = false ∧ p.suffix.getLast? = some '?' then 1 else 0

/-- What is rendered for a segment is shorter by at least this than what it was read from. -/
def Segment.excess (s : Segment) : Nat := ((Segment.parameters s).map Parameter.excess).sum

theorem Parameter.rereadable_of_excess {p : Parameter} (h : p.excess = 0) : p.Rereadable where
  braces := by
    have hcount : braceCount p.suffix = 0 := (Nat.add_eq_zero_iff.1 h).1
    rw [braceCount, List.countP_eq_zero] at hcount
    intro c hc
    have hnone := hcount c hc
    simpa using hnone
  unmarked := by
    intro hoptional hlast
    have hmark := (Nat.add_eq_zero_iff.1 h).2
    rw [if_pos ⟨hoptional, hlast⟩] at hmark
    cases hmark

theorem length_spell_ofLiteral (cs : List Char) :
    (spell (cs.map ofLiteral)).length = cs.length + braceCount cs := by
  induction cs with
  | nil => rfl
  | cons c cs ih =>
    rw [braceCount] at ih ⊢
    rw [List.map_cons, spell_cons, List.length_append, ih, List.countP_cons, List.length_cons]
    unfold ofLiteral
    split
    next b hb =>
      simp only [spelling, List.length_cons, List.length_nil, hb, Option.isSome_some, if_true]
      omega
    next hb =>
      simp only [spelling, List.length_cons, List.length_nil, hb, Option.isSome_none,
        Bool.false_eq_true, if_false]
      omega

/-- What is rendered between the braces of a parameter, with its excess, is no longer than what the
parameter was read from. -/
theorem Parameter.ReadFrom.length_body_le {p : Parameter} {body rest : List Char}
    (h : p.ReadFrom body rest) :
    p.body.length + p.excess ≤ (spell (body.map ofLiteral)).length := by
  have hsublist := (readTail_again h.tail).1
  have hbraces : braceCount p.suffix ≤ braceCount rest := hsublist.countP_le
  have hrest : braceCount rest ≤ braceCount body := by
    rw [h.spelled]
    refine List.Sublist.countP_le ?_
    exact ((List.sublist_append_right _ _).trans (List.sublist_append_left _ _)).trans
      (List.sublist_append_right _ _)
  have hmark : p.suffix.length +
      (if p.isOptional = false ∧ p.suffix.getLast? = some '?' then 1 else 0) ≤ rest.length := by
    split
    next hmark =>
      -- The text behind the name does not end in a question mark, so that it is not the whole text.
      refine Nat.lt_of_le_of_ne hsublist.length_le fun hlength => ?_
      rw [hsublist.eq_of_length hlength] at hmark
      exact h.unmarked hmark.1 hmark.2
    next => exact hsublist.length_le
  have hlength : p.body.length + rest.length = body.length + p.suffix.length := by
    rw [h.spelled, Parameter.body]
    simp only [List.length_append]
    omega
  rw [length_spell_ofLiteral, Parameter.excess]
  omega

theorem Part.length_parameter (p : Parameter) :
    (spell (Part.lexemes (.parameter p))).length = p.body.length + 2 := by
  rw [Part.spell_lexemes, Part.render, Parameter.toList_render]
  simp

theorem Segment.Grammar.length_lexemes_le {ls : List Lexeme} {s : Segment}
    (h : Segment.Grammar ls s) :
    (spell (Segment.lexemes s)).length + Segment.excess s ≤ (spell ls).length := by
  induction h with
  | nil => exact Nat.le_refl _
  | @literal cs ls s hne hnext hs ih =>
    have hparameters : Segment.excess (.literal (String.ofList cs) :: s) = Segment.excess s := rfl
    rw [hparameters, Segment.lexemes_cons, spell_append, spell_append, List.length_append,
      List.length_append, Part.lexemes, String.toList_ofList]
    omega
  | @parameter body rest p ls s hp hs ih =>
    have hbody := hp.length_body_le
    have hparameters : Segment.excess (.parameter p :: s) = p.excess + Segment.excess s := rfl
    rw [hparameters, Segment.lexemes_cons, spell_append, List.length_append,
      Part.length_parameter, spell_cons, spell_append, spell_cons]
    simp only [List.length_append, spelling, List.length_singleton]
    omega

theorem Template.length_lexemes_le {lss : List (List Lexeme)} {segments : List Segment}
    (h : List.Forall₂ Segment.ReadFrom lss segments) :
    (spell (Template.lexemes segments)).length + (segments.map Segment.excess).sum ≤
      (spell ([plain '/'].intercalate lss)).length := by
  induction h with
  | nil => exact Nat.le_refl _
  | @cons ls s lss segments hfirst hothers ih =>
    have hsegment := hfirst.grammar.length_lexemes_le
    rw [List.map_cons, List.sum_cons]
    cases hothers with
    | nil => simpa [Template.lexemes] using hsegment
    | cons hsecond hothers =>
      rw [Template.lexemes_cons_cons, List.intercalate_cons_cons, List.append_assoc]
      simp only [spell_append, spell_cons, spell_nil, List.length_append, List.append_nil] at ih ⊢
      omega

/-- What is rendered for a template, with the excess of its segments, is no longer than what the
template was read from. -/
theorem Template.length_text_le {text : String} {t : Template} (h : Template.parse text = .ok t) :
    (Template.ofSegments t.segments).text.toList.length + (t.segments.map Segment.excess).sum ≤
      (trimTemplate text.toList).length := by
  rw [Template.toList_text]
  rcases (Template.readFrom_of_parse h).2 with hnil | hread
  · rw [hnil]
    exact Nat.zero_le _
  · have hlength := Template.length_lexemes_le hread
    rwa [intercalate_splitSegments, spell_scan] at hlength

/-- Trimming takes away at least a tilde in front. -/
theorem length_trimTemplate_le (cs : List Char) :
    (trimTemplate cs).length + (if cs.head? = some '~' then 1 else 0) ≤ cs.length := by
  have htrim (cs : List Char) : (trimBoth (· == '/') cs).length ≤ cs.length := by
    rw [trimBoth, List.length_reverse]
    refine (List.dropWhile_sublist _).length_le.trans ?_
    rw [List.length_reverse]
    exact (List.dropWhile_sublist _).length_le
  rw [trimTemplate]
  split
  next htilde =>
    obtain ⟨rest, rfl⟩ := List.head?_eq_some_iff.1 htilde
    exact Nat.succ_le_succ (htrim rest)
  next => exact htrim cs

/-- Segments that are read from what is rendered for them are rereadable. -/
theorem Template.rereadable_of_parse {segments : List Segment} {t : Template}
    (h : Template.parse (Template.ofSegments segments).text = .ok t)
    (hsegments : t.segments = segments) : Template.Rereadable segments := by
  have hlength := Template.length_text_le h
  have htrim := length_trimTemplate_le (Template.ofSegments segments).text.toList
  rw [hsegments] at hlength
  have hexcess : (segments.map Segment.excess).sum = 0 := by omega
  have htilde : (Template.ofSegments segments).text.toList.head? ≠ some '~' := by
    intro htilde
    rw [if_pos htilde] at htrim
    omega
  constructor
  · intro s hs p hp
    rw [List.sum_eq_zero_iff_forall_eq_nat] at hexcess
    have hsegment := hexcess _ (List.mem_map_of_mem hs)
    rw [Segment.excess, List.sum_eq_zero_iff_forall_eq_nat] at hsegment
    have hp' := Segment.mem_parameters_iff.2 hp
    exact Parameter.rereadable_of_excess (hsegment _ (List.mem_map_of_mem hp'))
  · rintro text s rest rfl hhead
    obtain ⟨more, hmore⟩ := Template.exists_lexemes_cons (.literal text) s rest
    have hne : text ≠ "" := by
      rintro rfl
      cases hhead
    rw [Template.toList_text, hmore, Part.head?_literal hne] at htilde
    exact htilde hhead

/-- **Which templates survive rendering**: the text that is rendered for the segments of a template
that has been read is read as the same segments exactly if they are rereadable. -/
theorem Template.rereads_iff {text : String} {t : Template} (h : Template.parse text = .ok t) :
    (∃ t', Template.parse (Template.ofSegments t.segments).text = .ok t' ∧
      t'.segments = t.segments) ↔ Template.Rereadable t.segments := by
  constructor
  · rintro ⟨t', ht', hsegments⟩
    exact Template.rereadable_of_parse ht' hsegments
  · intro hrereadable
    exact ⟨_, Template.parse_of_rereadable h hrereadable, rfl⟩

/-- Empty constraints are forgotten, and a parenthesis may be left open in the last constraint. -/
theorem Template.rereads_iff_sample :
    ∃ t, Template.parse "/x\x7b\x7b\x7ba::int:y(=)=?z\x7d.\x7d\x7d/\x7b*b:z(=\x7d" = .ok t ∧
      ∃ t', Template.parse (Template.ofSegments t.segments).text = .ok t' ∧
        t'.segments = t.segments := by
  have hparse : Template.parse "/x\x7b\x7b\x7ba::int:y(=)=?z\x7d.\x7d\x7d/\x7b*b:z(=\x7d" =
      .ok { text := "x\x7b\x7b\x7ba::int:y(=)=?z\x7d.\x7d\x7d/\x7b*b:z(=\x7d"
            segments := [
              [.literal "x\x7b",
                .parameter { name := "a", default? := some "?z",
                             constraints := [⟨"int"⟩, ⟨"y(=)"⟩] },
                .literal ".\x7d"],
              [.parameter { name := "b", isCatchAll := true, constraints := [⟨"z(="⟩] }]] } := by
    decide +kernel
  refine ⟨_, hparse, (Template.rereads_iff hparse).2 ⟨?_, ?_⟩⟩
  · intro s hs p hp
    simp only [List.mem_cons, List.not_mem_nil, or_false] at hs
    rcases hs with rfl | rfl
    · simp only [List.mem_cons, List.not_mem_nil, or_false, false_or, reduceCtorEq,
        Part.parameter.injEq] at hp
      subst hp
      exact ⟨by simp [Parameter.suffix, brace?], by decide⟩
    · simp only [List.mem_singleton, Part.parameter.injEq] at hp
      subst hp
      exact ⟨by simp [Parameter.suffix, brace?], by decide⟩
  · rintro text s rest heq
    cases heq
    decide

/-- The braces of a pattern are lost: they are rendered as they stand in the constraint, and the
text is not read at all. -/
theorem Template.rereads_no_braces :
    ∃ t, Template.parse "\x7bid:regex(^\\d\x7b\x7b2\x7d\x7d$)\x7d" = .ok t ∧
      Template.parse (Template.ofSegments t.segments).text =
        .error (.unbalancedBrace "\x7bid:regex(^\\d\x7b2\x7d$)\x7d") :=
  ⟨{ text := "\x7bid:regex(^\\d\x7b\x7b2\x7d\x7d$)\x7d"
     segments := [[.parameter { name := "id", constraints := [⟨"regex(^\\d\x7b2\x7d$)"⟩] }]] },
    by decide +kernel⟩

end UrlRouting

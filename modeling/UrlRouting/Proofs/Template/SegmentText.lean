import Mathlib.Data.List.Chain
import UrlRouting.Proofs.Template.ParameterText
import UrlRouting.Proofs.Template.Parts

/-!
# Reading a segment undoes rendering it

A segment is rendered as `Segment.lexemes`, which are not cut apart
(`Segment.splitSegments_lexemes`) and are read as this segment (`readSegment_lexemes`), provided
that it is `Segment.Legible`: its parts are, and none is mistaken for a part of what stands
beside it. A segment that is `Segment.WellFormed` is legible.
-/

namespace UrlRouting

namespace Part

/-- The lexemes that a part is written with. -/
def lexemes : Part → List Lexeme
  | .literal text => text.toList.map Lexeme.ofLiteral
  | .parameter p => .single .left :: (p.body.map .plain ++ [.single .right])

/-- A part whose text is read as this part: a literal has some text and no slash. -/
def WellFormed : Part → Prop
  | .literal text => text ≠ "" ∧ '/' ∉ text.toList
  | .parameter p => p.WellFormed

/-- A part that is read from what is rendered for it. -/
def Legible : Part → Prop
  | .literal text => text ≠ "" ∧ '/' ∉ text.toList
  | .parameter p => p.Legible

theorem WellFormed.legible {part : Part} (h : part.WellFormed) : part.Legible := by
  cases part with
  | literal text => exact h
  | parameter p => exact Parameter.WellFormed.legible h

/-- A part may stand before another one of its segment: parts of one kind do not meet, and a literal
does not go on with the brace that closes a parameter. -/
def MayPrecede : Part → Part → Prop
  | .literal _, .literal _ => False
  | .literal _, .parameter _ => True
  | .parameter _, .literal text => text.toList.head? ≠ some '\x7d'
  | .parameter _, .parameter _ => False

end Part

namespace Segment

/-- The lexemes that a segment is written with. -/
def lexemes (s : Segment) : List Lexeme := s.flatMap Part.lexemes

/-- A segment whose text is read as this segment. -/
structure WellFormed (s : Segment) : Prop where
  /-- It has a part. -/
  nonEmpty : s ≠ []
  /-- Each part is well-formed. -/
  parts : ∀ part ∈ s, part.WellFormed
  /-- The parts may stand side by side. -/
  neighbours : s.IsChain Part.MayPrecede
  /-- A parameter that shares its segment is no catch-all and not optional. -/
  shared : 1 < s.length → ∀ p, .parameter p ∈ s → p.isCatchAll = false ∧ p.isOptional = false

/-- A segment that is read from what is rendered for it. -/
structure Legible (s : Segment) : Prop where
  /-- It has a part. -/
  nonEmpty : s ≠ []
  /-- Each part is legible. -/
  parts : ∀ part ∈ s, part.Legible
  /-- The parts may stand side by side. -/
  neighbours : s.IsChain Part.MayPrecede
  /-- The parts may share a segment. -/
  faultless : ∀ raw, complexError? raw s = none

end Segment

/-- A part is written with its lexemes. -/
theorem Part.spell_lexemes (part : Part) : Lexeme.spell part.lexemes = part.render.toList := by
  cases part with
  | literal text =>
    rw [Part.lexemes, Part.render, String.toList_ofList, escapeBraces, Lexeme.spell,
      List.flatMap_map]
    exact List.flatMap_congr fun c _ => Lexeme.spelling_ofLiteral c
  | parameter p =>
    rw [Part.render, Parameter.toList_render, Part.lexemes, Lexeme.spell_cons, Lexeme.spell_append,
      Lexeme.spell, List.flatMap_map]
    simp only [Lexeme.spelling, List.flatMap_singleton']
    rfl

theorem Segment.lexemes_cons (part : Part) (s : Segment) :
    Segment.lexemes (part :: s) = part.lexemes ++ Segment.lexemes s := List.flatMap_cons

theorem Segment.toList_render (s : Segment) :
    (Segment.render s).toList = Lexeme.spell (Segment.lexemes s) := by
  rw [Segment.render, String.toList_join, List.flatMap_map, Segment.lexemes, Lexeme.spell,
    List.flatMap_assoc]
  exact List.flatMap_congr fun part _ => (Part.spell_lexemes part).symm

theorem Part.proper_lexemes {part : Part} (h : part.Legible) : Lexeme.Proper part.lexemes := by
  cases part with
  | literal text => exact Lexeme.proper_ofLiteral text.toList
  | parameter p =>
    have hbody := Parameter.Legible.braces h
    refine ⟨?_, (Lexeme.proper_plain hbody).append ⟨nofun, trivial⟩ ?_⟩
    · cases hcons : p.body with
      | nil => exact fun heq => absurd (Option.some.inj heq) (by decide)
      | cons c rest =>
        have hc := hbody c (hcons ▸ List.mem_cons_self)
        intro heq
        rw [Option.some.inj heq] at hc
        cases hc
    · intro b hb
      obtain ⟨c, -, hc⟩ := List.mem_map.1 (List.mem_of_getLast? hb)
      cases hc

/-- Only a parameter ends in a single brace, the right one. -/
theorem Part.getLast?_lexemes {part : Part} {b : Brace}
    (h : part.lexemes.getLast? = some (.single b)) : (∃ p, part = .parameter p) ∧ b = .right := by
  cases part with
  | literal text =>
    obtain ⟨c, -, hc⟩ := List.mem_map.1 (List.mem_of_getLast? h)
    exact absurd hc.symm (Lexeme.single_ne_ofLiteral b c)
  | parameter p =>
    refine ⟨⟨p, rfl⟩, ?_⟩
    rw [Part.lexemes, ← List.cons_append, List.getLast?_concat] at h
    exact (Lexeme.single.inj (Option.some.inj h)).symm

/-- A literal is written with its first character first. -/
theorem Part.head?_literal {text : String} (h : text ≠ "") (more : List Lexeme) :
    (Lexeme.spell (Part.lexemes (.literal text) ++ more)).head? = text.toList.head? := by
  have hne : text.toList ≠ [] := fun hnil => h (String.toList_eq_nil_iff.1 hnil)
  obtain ⟨c, cs, hcons⟩ := List.exists_cons_of_ne_nil hne
  rw [Part.lexemes, hcons, List.map_cons, List.cons_append, Lexeme.spell_cons,
    Lexeme.spelling_ofLiteral]
  split <;> rfl

/-- Segments are written with proper lexemes. -/
theorem Segment.proper_lexemes {s : Segment} (hparts : ∀ part ∈ s, part.Legible)
    (hneighbours : s.IsChain Part.MayPrecede) : Lexeme.Proper (Segment.lexemes s) := by
  induction s with
  | nil => trivial
  | cons part s ih =>
    rw [List.forall_mem_cons] at hparts
    refine (Part.proper_lexemes hparts.1).append (ih hparts.2 hneighbours.tail) fun b hb => ?_
    obtain ⟨⟨p, rfl⟩, rfl⟩ := Part.getLast?_lexemes hb
    cases s with
    | nil => exact nofun
    | cons part' s =>
      have hmeet := (List.isChain_cons_cons.1 hneighbours).1
      cases part' with
      | parameter q => exact hmeet.elim
      | literal text =>
        have hhead := Part.head?_literal (hparts.2 _ List.mem_cons_self).1 (Segment.lexemes s)
        exact fun heq => hmeet (hhead.symm.trans heq)

/-- A segment is not cut apart. -/
theorem Segment.splitSegments_lexemes {s : Segment} (h : ∀ part ∈ s, part.Legible)
    (rest : List Lexeme) : Lexeme.splitSegments false (Segment.lexemes s ++ rest) =
      (Lexeme.splitSegments false rest).modifyHead (Segment.lexemes s ++ ·) := by
  induction s with
  | nil => exact (congrFun List.modifyHead_id _).symm
  | cons part s ih =>
    rw [List.forall_mem_cons] at h
    have hpart (rest : List Lexeme) : Lexeme.splitSegments false (part.lexemes ++ rest) =
        (Lexeme.splitSegments false rest).modifyHead (part.lexemes ++ ·) := by
      cases part with
      | literal text =>
        refine Lexeme.splitSegments_append (fun b hb => ?_) (fun _ hslash => ?_) rest
        · obtain ⟨c, -, hc⟩ := List.mem_map.1 hb
          exact Lexeme.single_ne_ofLiteral b c hc.symm
        · obtain ⟨c, hmem, hc⟩ := List.mem_map.1 hslash
          rw [← Lexeme.plain_of_ofLiteral hc.symm] at hmem
          exact h.1.2 hmem
      | parameter p =>
        rw [Part.lexemes, List.cons_append, List.append_assoc, List.singleton_append,
          Lexeme.splitSegments_cons (fun hslash => Lexeme.noConfusion hslash.1),
          Lexeme.insideAfter, Lexeme.splitSegments_append, Lexeme.splitSegments_cons,
          Lexeme.insideAfter, List.modifyHead_modifyHead, List.modifyHead_modifyHead]
        · congr 1
          funext segment
          simp
        · exact fun hslash => Bool.noConfusion hslash.2
        · intro b hb
          obtain ⟨c, -, hc⟩ := List.mem_map.1 hb
          cases hc
        · exact fun hinside => Bool.noConfusion hinside
    rw [Segment.lexemes, List.flatMap_cons, List.append_assoc, hpart]
    rw [Segment.lexemes] at ih
    rw [ih h.2, List.modifyHead_modifyHead]
    simp only [List.append_assoc]
    rfl

/-- What is written between braces is cut off at the right one. -/
theorem cutBody_append (body : List Char) (rest : List Lexeme) :
    cutBody (body.map .plain ++ .single .right :: rest) = some (body, rest) := by
  induction body with
  | nil => rfl
  | cons c body ih => rw [List.map_cons, List.cons_append, cutBody, ih, Option.map_some]

/-- Literal text is gathered. -/
theorem readParts_literal (raw : String) (before text : List Char) (rest : List Lexeme) :
    readParts raw before (text.map Lexeme.ofLiteral ++ rest) =
      readParts raw (before ++ text) rest := by
  induction text generalizing before with
  | nil => rw [List.append_nil]; rfl
  | cons c text ih =>
    have hstep : readParts raw before (Lexeme.ofLiteral c :: (text.map Lexeme.ofLiteral ++ rest)) =
        readParts raw (before ++ [c]) (text.map Lexeme.ofLiteral ++ rest) := by
      unfold Lexeme.ofLiteral
      split
      next b hb => rw [readParts, Lexeme.char_of_brace? hb]
      next => rw [readParts]
    rw [List.map_cons, List.cons_append, hstep, ih, List.append_assoc, List.singleton_append]

/-- A parameter is read between its braces. -/
theorem readParts_parameter (raw : String) (before : List Char) {p : Parameter} (h : p.Legible)
    {rest : List Lexeme} {parts : List Part} (hrest : readParts raw [] rest = .ok parts) :
    readParts raw before (Part.lexemes (.parameter p) ++ rest) =
      .ok (consLiteral before (.parameter p :: parts)) := by
  have hcut : cutBody (p.body.map .plain ++ [.single .right] ++ rest) = some (p.body, rest) := by
    rw [List.append_assoc]
    exact cutBody_append p.body rest
  rw [Part.lexemes, List.cons_append, readParts]
  split
  next hnone =>
    rw [hcut] at hnone
    cases hnone
  next body left hsome =>
    rw [hcut] at hsome
    cases hsome
    rw [h.read]
    dsimp only
    rw [hrest]

/-- The parts of a segment are read, where `before` is the literal text that was read so far. -/
theorem readParts_lexemes (raw : String) {s : Segment} (hparts : ∀ part ∈ s, part.Legible)
    (hneighbours : s.IsChain Part.MayPrecede) {before : List Char}
    (hbefore : before = [] ∨ ∀ text, s.head? ≠ some (.literal text)) :
    readParts raw before (Segment.lexemes s) = .ok (consLiteral before s) := by
  induction s generalizing before with
  | nil => rw [Segment.lexemes, List.flatMap_nil, readParts]
  | cons part s ih =>
    rw [List.forall_mem_cons] at hparts
    rw [Segment.lexemes_cons]
    cases part with
    | literal text =>
      have hnil : before = [] := hbefore.resolve_right fun h => h text rfl
      subst hnil
      have hnext : ∀ text', s.head? ≠ some (.literal text') := by
        cases s with
        | nil => simp
        | cons part' s =>
          intro text' heq
          have hmeet := (List.isChain_cons_cons.1 hneighbours).1
          rw [Option.some.inj heq] at hmeet
          exact hmeet
      have hne : text.toList.isEmpty = false := by simpa using hparts.1.1
      rw [Part.lexemes, readParts_literal, List.nil_append,
        ih hparts.2 hneighbours.tail (Or.inr hnext), consLiteral, hne, if_neg Bool.false_ne_true,
        String.ofList_toList]
      rfl
    | parameter p =>
      exact readParts_parameter raw before hparts.1 (ih hparts.2 hneighbours.tail (Or.inl rfl))

theorem hasAdjacentParameters_of_neighbours {s : Segment}
    (h : s.IsChain Part.MayPrecede) : hasAdjacentParameters s = false := by
  fun_induction hasAdjacentParameters s with
  | case1 => exact (List.isChain_cons_cons.1 h).1.elim
  | case2 part rest hfirst ih => exact ih h.tail
  | case3 => rfl

/-- A well-formed segment has no fault. -/
theorem complexError?_eq_none {s : Segment} (h : s.WellFormed) (raw : String) :
    complexError? raw s = none := by
  unfold complexError?
  split
  next => rfl
  next hlength =>
    have hshared : (Segment.parameters s).findSome? sharingError? = none := by
      rw [List.findSome?_eq_none_iff]
      intro p hp
      obtain ⟨hcatchAll, hoptional⟩ :=
        h.shared (Nat.lt_of_not_le hlength) p (Segment.mem_parameters_iff.1 hp)
      rw [sharingError?, hcatchAll, hoptional]
      rfl
    rw [hshared, hasAdjacentParameters_of_neighbours h.neighbours]
    rfl

theorem Segment.WellFormed.legible {s : Segment} (h : s.WellFormed) : s.Legible where
  nonEmpty := h.nonEmpty
  parts := fun part hpart => (h.parts part hpart).legible
  neighbours := h.neighbours
  faultless := complexError?_eq_none h

theorem Segment.lexemes_ne_nil {s : Segment} (h : s.Legible) : Segment.lexemes s ≠ [] := by
  obtain ⟨part, rest, rfl⟩ := List.exists_cons_of_ne_nil h.nonEmpty
  rw [Segment.lexemes_cons]
  refine List.append_ne_nil_of_left_ne_nil ?_ _
  cases part with
  | literal text =>
    have hne := (h.parts _ List.mem_cons_self).1
    simpa [Part.lexemes] using hne
  | parameter p => exact List.cons_ne_nil _ _

/-- A segment is read as it was written. -/
theorem readSegment_lexemes {s : Segment} (h : s.Legible) :
    readSegment (Segment.lexemes s) = .ok s := by
  have hne : (Segment.lexemes s).isEmpty = false := by simpa using Segment.lexemes_ne_nil h
  unfold readSegment
  dsimp only
  rw [hne, if_neg Bool.false_ne_true, readParts_lexemes _ h.parts h.neighbours (Or.inl rfl)]
  dsimp only
  rw [show consLiteral [] s = s from rfl, h.faultless]

end UrlRouting

import UrlRouting.Proofs.Template.Parameters
import UrlRouting.Proofs.Template.SegmentText

/-!
# Reading a template undoes rendering it

The text that is rendered for segments is read as the same segments (`Template.parse_ofSegments`),
provided that they are `Template.WellFormed`. It is scanned as the lexemes of the segments with
slashes between them, it is cut at these slashes, and nothing is trimmed from its ends. All this
needs no more than legible segments (`Template.parse_of_legible`).
-/

namespace UrlRouting

open Text

/-! ### Segments that are read together -/

/-- Segments whose text is read as these segments. -/
structure Template.WellFormed (segments : List Segment) : Prop where
  /-- Each segment is well-formed. -/
  each : ∀ s ∈ segments, s.WellFormed
  /-- No two names are equal up to case. -/
  names : ((segments.flatMap Segment.parameters).map (fold ·.name)).Nodup
  /-- A catch-all stands in the last segment. -/
  catchAll : CatchAllLast segments
  /-- The template does not begin with a tilde, which would not count. -/
  tilde : ∀ text s rest, segments = (.literal text :: s) :: rest → text.toList.head? ≠ some '~'

theorem readSegments_lexemes {segments : List Segment} (h : ∀ s ∈ segments, s.Legible) :
    readSegments (segments.map Segment.lexemes) = .ok segments := by
  induction segments with
  | nil => rfl
  | cons s segments ih =>
    rw [List.forall_mem_cons] at h
    rw [List.map_cons, readSegments, readSegment_lexemes h.1]
    dsimp only
    rw [ih h.2]

theorem parametersError?_of_new {isLast : Bool} {seen : List String} {ps : List Parameter}
    (hnodup : (ps.map (fold ·.name)).Nodup) (hnew : ∀ p ∈ ps, fold p.name ∉ seen)
    (hlast : ∀ p ∈ ps, p.isCatchAll → isLast) : parametersError? isLast seen ps = none := by
  induction ps generalizing seen with
  | nil => rfl
  | cons p ps ih =>
    rw [List.map_cons, List.nodup_cons] at hnodup
    rw [List.forall_mem_cons] at hnew hlast
    have hseen : seen.contains (fold p.name) = false := by
      rw [Bool.eq_false_iff]
      exact fun h => hnew.1 (List.contains_iff_mem.1 h)
    have hcatchAll : (p.isCatchAll && !isLast) = false := by
      cases hp : p.isCatchAll with
      | false => rfl
      | true => rw [hlast.1 hp]; rfl
    rw [parametersError?, hseen, hcatchAll, if_neg Bool.false_ne_true, if_neg Bool.false_ne_true]
    refine ih hnodup.2 (fun q hq hmem => ?_) hlast.2
    rcases List.mem_cons.1 hmem with heq | hmem
    · exact hnodup.1 (heq ▸ List.mem_map_of_mem hq)
    · exact hnew.2 q hq hmem

/-- Segments with new and pairwise different names have no fault. -/
theorem segmentsError?_of_new {seen : List String} {segments : List Segment}
    (heach : ∀ s ∈ segments, s.WellFormed)
    (hnodup : ((segments.flatMap Segment.parameters).map (fold ·.name)).Nodup)
    (hnew : ∀ p ∈ segments.flatMap Segment.parameters, fold p.name ∉ seen)
    (hlast : CatchAllLast segments) : segmentsError? seen segments = none := by
  induction segments generalizing seen with
  | nil => rfl
  | cons s segments ih =>
    rw [List.forall_mem_cons] at heach
    rw [List.flatMap_cons, List.map_append, List.nodup_append] at hnodup
    rw [List.flatMap_cons] at hnew
    have hcatchAll : ∀ p ∈ Segment.parameters s, p.isCatchAll → segments.isEmpty := by
      intro p hp hcatchAll
      have hmem := Segment.mem_parameters_iff.1 hp
      by_cases hlength : 1 < s.length
      · rw [(heach.1.shared hlength p hmem).1] at hcatchAll
        cases hcatchAll
      · have hpos := List.length_pos_of_mem hmem
        obtain ⟨part, rfl⟩ := List.length_eq_one_iff.1 (by omega : s.length = 1)
        obtain rfl := List.mem_singleton.1 hmem
        rw [hlast.eq_nil rfl hcatchAll]
        rfl
    rw [segmentsError?, parametersError?_of_new hnodup.1
      (fun p hp => hnew p (List.mem_append_left _ hp)) hcatchAll]
    refine ih heach.2 hnodup.2.1 (fun p hp hmem => ?_) hlast.tail
    rcases List.mem_append.1 hmem with hmem | hmem
    · exact hnodup.2.2 _ hmem _ (List.mem_map_of_mem hp) rfl
    · exact hnew p (List.mem_append_right _ hp) hmem

/-- The lexemes of a template. -/
def Template.lexemes (segments : List Segment) : List Lexeme :=
  [.plain '/'].intercalate (segments.map Segment.lexemes)

theorem Template.lexemes_cons_cons (s s' : Segment) (rest : List Segment) :
    Template.lexemes (s :: s' :: rest) =
      Segment.lexemes s ++ .plain '/' :: Template.lexemes (s' :: rest) := by
  rw [Template.lexemes, List.map_cons, List.map_cons, List.intercalate_cons_cons, List.append_assoc]
  rfl

theorem Template.lexemes_singleton (s : Segment) : Template.lexemes [s] = Segment.lexemes s := by
  simp [Template.lexemes]

theorem Template.toList_text (segments : List Segment) :
    (Template.ofSegments segments).text.toList = Lexeme.spell (Template.lexemes segments) := by
  rw [Template.ofSegments, String.toList_intercalate, List.map_map]
  induction segments with
  | nil => rfl
  | cons s segments ih =>
    cases segments with
    | nil => simp [Template.lexemes, Segment.toList_render]
    | cons s' segments =>
      rw [List.map_cons, List.map_cons, List.intercalate_cons_cons, List.append_assoc,
        Template.lexemes_cons_cons, Lexeme.spell_append, Lexeme.spell_cons, ← ih,
        ← Segment.toList_render]
      rfl

/-- Templates are written with proper lexemes. -/
theorem Template.proper_lexemes {segments : List Segment} (h : ∀ s ∈ segments, s.Legible) :
    Lexeme.Proper (Template.lexemes segments) := by
  induction segments with
  | nil => trivial
  | cons s segments ih =>
    rw [List.forall_mem_cons] at h
    have hsegment := Segment.proper_lexemes h.1.parts h.1.neighbours
    cases segments with
    | nil =>
      rw [Template.lexemes_singleton]
      exact hsegment
    | cons s' segments =>
      rw [Template.lexemes_cons_cons]
      refine hsegment.append ⟨rfl, ih h.2⟩ fun b _ hslash => ?_
      cases b <;> exact absurd (Option.some.inj hslash) (by decide)

/-- A template is cut into the segments that it was written from. -/
theorem Template.splitSegments_lexemes {segments : List Segment} (hne : segments ≠ [])
    (h : ∀ s ∈ segments, s.Legible) :
    Lexeme.splitSegments false (Template.lexemes segments) = segments.map Segment.lexemes := by
  induction segments with
  | nil => exact absurd rfl hne
  | cons s segments ih =>
    rw [List.forall_mem_cons] at h
    cases segments with
    | nil =>
      have hsplit := Segment.splitSegments_lexemes h.1.parts []
      rw [List.append_nil] at hsplit
      rw [Template.lexemes_singleton, hsplit]
      simp [Lexeme.splitSegments]
    | cons s' segments =>
      rw [Template.lexemes_cons_cons, Segment.splitSegments_lexemes h.1.parts,
        Lexeme.splitSegments_slash, ih (List.cons_ne_nil _ _) h.2, List.modifyHead_cons,
        List.append_nil]
      rfl

/-! ### The ends of a template -/

/-- A text that neither begins nor ends with a slash. -/
structure Bare (cs : List Char) : Prop where
  /-- It begins with another character. -/
  head : ∃ c rest, cs = c :: rest ∧ c ≠ '/'
  /-- It ends with another character. -/
  last : ∃ front c, cs = front ++ [c] ∧ c ≠ '/'

theorem Bare.append {cs cs' : List Char} (h : Bare cs) (h' : Bare cs') (between : List Char) :
    Bare (cs ++ (between ++ cs')) where
  head := by
    obtain ⟨c, rest, rfl, hc⟩ := h.head
    exact ⟨c, rest ++ (between ++ cs'), rfl, hc⟩
  last := by
    obtain ⟨front, c, rfl, hc⟩ := h'.last
    exact ⟨cs ++ (between ++ front), c, by simp, hc⟩

theorem trimBoth_of_bare {cs : List Char} (h : Bare cs) : trimBoth (· == '/') cs = cs := by
  have hdrop {c : Char} (hc : c ≠ '/') (rest : List Char) :
      (c :: rest).dropWhile (· == '/') = c :: rest := by
    rw [List.dropWhile_cons_of_neg (by simpa using hc)]
  obtain ⟨c, rest, hcons, hc⟩ := h.head
  obtain ⟨front, d, hconcat, hd⟩ := h.last
  rw [trimBoth, hcons, hdrop hc, ← hcons, hconcat, List.reverse_append, List.reverse_singleton,
    List.singleton_append, hdrop hd, List.reverse_cons, List.reverse_reverse]

/-- Literal text is written without a slash at its ends if it has none at all. -/
theorem bare_ofLiteral {cs : List Char} (hne : cs ≠ []) (hslash : '/' ∉ cs) :
    Bare (Lexeme.spell (cs.map Lexeme.ofLiteral)) := by
  have hchar {c : Char} (hc : c ≠ '/') : Bare (Lexeme.ofLiteral c).spelling := by
    rw [Lexeme.spelling_ofLiteral]
    split
    · exact ⟨⟨c, [c], rfl, hc⟩, [c], c, rfl, hc⟩
    · exact ⟨⟨c, [], rfl, hc⟩, [], c, rfl, hc⟩
  induction cs with
  | nil => exact absurd rfl hne
  | cons c cs ih =>
    rw [List.mem_cons, not_or] at hslash
    cases cs with
    | nil => simpa using hchar (Ne.symm hslash.1)
    | cons d cs =>
      rw [List.map_cons, Lexeme.spell_cons]
      exact (hchar (Ne.symm hslash.1)).append (ih (List.cons_ne_nil _ _) hslash.2) []

theorem Part.bare {part : Part} (h : part.Legible) : Bare (Lexeme.spell part.lexemes) := by
  cases part with
  | literal text =>
    exact bare_ofLiteral (fun hnil => h.1 (String.toList_eq_nil_iff.1 hnil)) h.2
  | parameter p =>
    rw [Part.spell_lexemes, Part.render, Parameter.toList_render]
    exact ⟨⟨'\x7b', p.body ++ ['\x7d'], rfl, by decide⟩, '\x7b' :: p.body, '\x7d', rfl, by decide⟩

theorem Segment.bare {s : Segment} (hne : s ≠ []) (h : ∀ part ∈ s, part.Legible) :
    Bare (Lexeme.spell (Segment.lexemes s)) := by
  induction s with
  | nil => exact absurd rfl hne
  | cons part s ih =>
    rw [List.forall_mem_cons] at h
    rw [Segment.lexemes_cons, Lexeme.spell_append]
    cases s with
    | nil => simpa [Segment.lexemes] using Part.bare h.1
    | cons part' s => exact (Part.bare h.1).append (ih (List.cons_ne_nil _ _) h.2) []

theorem Template.bare {segments : List Segment} (hne : segments ≠ [])
    (h : ∀ s ∈ segments, s.Legible) : Bare (Lexeme.spell (Template.lexemes segments)) := by
  induction segments with
  | nil => exact absurd rfl hne
  | cons s segments ih =>
    rw [List.forall_mem_cons] at h
    have hsegment := Segment.bare h.1.nonEmpty h.1.parts
    cases segments with
    | nil => rwa [Template.lexemes_singleton]
    | cons s' segments =>
      rw [Template.lexemes_cons_cons, Lexeme.spell_append, Lexeme.spell_cons]
      exact hsegment.append (ih (List.cons_ne_nil _ _) h.2) ['/']

/-- A template begins with its first part. -/
theorem Template.exists_lexemes_cons (part : Part) (parts : Segment) (rest : List Segment) :
    ∃ more, Template.lexemes ((part :: parts) :: rest) = part.lexemes ++ more := by
  cases rest with
  | nil => exact ⟨_, by rw [Template.lexemes_singleton, Segment.lexemes_cons]⟩
  | cons s rest =>
    exact ⟨_, by rw [Template.lexemes_cons_cons, Segment.lexemes_cons, List.append_assoc]⟩

/-- Only a literal begins with a tilde. -/
theorem Template.head?_ne_tilde {segments : List Segment} (heach : ∀ s ∈ segments, s.Legible)
    (htilde : ∀ text s rest, segments = (.literal text :: s) :: rest →
      text.toList.head? ≠ some '~') :
    (Lexeme.spell (Template.lexemes segments)).head? ≠ some '~' := by
  cases segments with
  | nil => exact nofun
  | cons s rest =>
    have hs := heach s List.mem_cons_self
    obtain ⟨part, parts, rfl⟩ := List.exists_cons_of_ne_nil hs.nonEmpty
    obtain ⟨more, hmore⟩ := Template.exists_lexemes_cons part parts rest
    rw [hmore]
    cases part with
    | literal text =>
      rw [Part.head?_literal (hs.parts _ List.mem_cons_self).1]
      exact htilde text parts rest rfl
    | parameter p => exact fun heq => absurd (Option.some.inj heq) (by decide)

/-- Legible segments without a fault are read from what is rendered for them, unless this begins
with a tilde. -/
theorem Template.parse_of_legible {segments : List Segment} (h : ∀ s ∈ segments, s.Legible)
    (hfaultless : segmentsError? [] segments = none)
    (htilde : ∀ text s rest, segments = (.literal text :: s) :: rest →
      text.toList.head? ≠ some '~') :
    Template.parse (Template.ofSegments segments).text = .ok (Template.ofSegments segments) := by
  by_cases hne : segments = []
  · subst hne
    rfl
  · have hbare := Template.bare hne h
    have hnonEmpty : (Lexeme.spell (Template.lexemes segments)).isEmpty = false := by
      obtain ⟨c, rest, hcons, -⟩ := hbare.head
      rw [hcons]
      rfl
    have htrim : trimTemplate (Lexeme.spell (Template.lexemes segments)) =
        Lexeme.spell (Template.lexemes segments) := by
      rw [trimTemplate, if_neg (Template.head?_ne_tilde h htilde), trimBoth_of_bare hbare]
    unfold Template.parse
    dsimp only
    rw [Template.toList_text, htrim, hnonEmpty, if_neg Bool.false_ne_true,
      Lexeme.scan_spell (Template.proper_lexemes h), Template.splitSegments_lexemes hne h,
      readSegments_lexemes h]
    dsimp only
    rw [hfaultless, ← Template.toList_text, String.ofList_toList]
    rfl

/-- **Reading undoes rendering**: the text that is rendered for well-formed segments is read as the
template with this text and these segments. -/
theorem Template.parse_ofSegments {segments : List Segment} (h : Template.WellFormed segments) :
    Template.parse (Template.ofSegments segments).text = .ok (Template.ofSegments segments) := by
  have hlegible : ∀ s ∈ segments, s.Legible := fun s hs => (h.each s hs).legible
  have hfaultless : segmentsError? [] segments = none :=
    segmentsError?_of_new h.each h.names (fun _ _ => List.not_mem_nil) h.catchAll
  exact Template.parse_of_legible hlegible hfaultless h.tilde

/-- The segments of `a{{b/v{c:range(1:2)=/}~/{d?}/{*e=x/y}`. -/
def sampleSegments : List Segment :=
  [[.literal "a\x7bb"],
    [.literal "v",
      .parameter { name := "c", default? := some "/", constraints := [⟨"range(1:2)"⟩] },
      .literal "~"],
    [.parameter { name := "d", isOptional := true }],
    [.parameter { name := "e", isCatchAll := true, default? := some "x/y" }]]

theorem wellFormed_sampleSegments : Template.WellFormed sampleSegments where
  each := by
    have hsole {part : Part} (h : part.WellFormed) : Segment.WellFormed [part] :=
      ⟨List.cons_ne_nil _ _, by simpa using h, .singleton _,
        fun hlt => absurd hlt (Nat.lt_irrefl 1)⟩
    simp only [sampleSegments, List.forall_mem_cons]
    refine ⟨hsole ⟨by decide, by decide⟩, ⟨List.cons_ne_nil _ _, ?_, ?_, ?_⟩, hsole ?_, hsole ?_,
      List.forall_mem_nil _⟩
    · simp only [List.forall_mem_cons]
      refine ⟨⟨by decide, by decide⟩, ?_, ⟨by decide, by decide⟩, List.forall_mem_nil _⟩
      exact ⟨by decide, by simp [nameDelimiters], by decide,
        by simp [Parameter.suffix, Lexeme.brace?], by decide, by decide⟩
    · exact .cons_cons trivial (.cons_cons (by unfold Part.MayPrecede; decide) (.singleton _))
    · intro _ p hp
      simp only [List.mem_cons, List.not_mem_nil, or_false, Part.parameter.injEq, reduceCtorEq,
        false_or] at hp
      exact hp ▸ ⟨rfl, rfl⟩
    · exact ⟨by decide, by simp [nameDelimiters], by decide,
        by simp [Parameter.suffix, Lexeme.brace?], by decide, by decide⟩
    · exact ⟨by decide, by simp [nameDelimiters], by decide,
        by simp [Parameter.suffix, Lexeme.brace?], by decide, by decide⟩
  names := by decide +kernel
  catchAll := by
    intro s hs p hp
    simp only [sampleSegments, List.dropLast, List.mem_cons, List.not_mem_nil, or_false] at hs
    rcases hs with rfl | rfl | rfl
    · cases hp
    · cases hp
    · cases hp
      rfl
  tilde := by
    rintro text s rest h
    cases h
    decide

/-- Slashes, colons and braces may stand where they end nothing. -/
theorem Template.parse_ofSegments_sample :
    Template.parse "a\x7b\x7bb/v\x7bc:range(1:2)=/\x7d~/\x7bd?\x7d/\x7b*e=x/y\x7d" =
      .ok (.ofSegments sampleSegments) := by
  have htext : (Template.ofSegments sampleSegments).text =
      "a\x7b\x7bb/v\x7bc:range(1:2)=/\x7d~/\x7bd?\x7d/\x7b*e=x/y\x7d" := by
    decide +kernel
  rw [← htext]
  exact Template.parse_ofSegments wellFormed_sampleSegments

end UrlRouting

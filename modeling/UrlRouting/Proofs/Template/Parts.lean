import Mathlib.Data.List.Basic
import UrlRouting.Proofs.Template.Grammar

/-!
# The parts of a parsed template

No literal of a template that has been read from a text is empty, and no two parameters of a
segment stand side by side (`spaced_of_parse`).
-/

namespace UrlRouting

/-- No literal of a segment is empty, and no two parameters stand side by side. -/
structure Segment.Spaced (s : Segment) : Prop where
  /-- Each literal has some text. -/
  literals : ∀ text, .literal text ∈ s → text ≠ ""
  /-- There is a literal between two parameters. -/
  parameters : hasAdjacentParameters s = false

theorem Segment.Spaced.apart {s : Segment} (h : s.Spaced) (p q : Parameter) :
    ¬ [.parameter p, .parameter q] <:+: s := by
  have hadjacent := h.parameters
  clear h
  fun_induction hasAdjacentParameters s with
  | case1 => cases hadjacent
  | case2 part rest hfirst ih =>
    intro hp
    rcases List.infix_cons_iff.1 hp with hp | hp
    · obtain ⟨rfl, more, rfl⟩ := List.cons_prefix_cons.1 hp
      exact hfirst p q more rfl rfl
    · exact ih hadjacent hp
  | case3 => exact fun hp => absurd (List.infix_nil.1 hp) (List.cons_ne_nil _ _)

theorem Segment.mem_parameters_iff {s : Segment} {p : Parameter} :
    p ∈ Segment.parameters s ↔ .parameter p ∈ s := by
  rw [Segment.parameters, List.mem_filterMap]
  constructor
  · rintro ⟨part, hpart, hp⟩
    cases part with
    | literal text => cases hp
    | parameter q => exact Option.some.inj hp ▸ hpart
  · exact fun hp => ⟨.parameter p, hp, rfl⟩

/-- The literals that lexemes spell have some text, and no slash where the lexemes have none outside
of parameters. -/
theorem Segment.Grammar.literal_of_mem {ls : List Lexeme} {s : Segment}
    (h : Segment.Grammar ls s) (huncut : Lexeme.Uncut false ls) {text : String}
    (hmem : .literal text ∈ s) : text ≠ "" ∧ '/' ∉ text.toList := by
  induction h with
  | nil => cases hmem
  | @literal cs ls s hne hnext hs ih =>
    obtain ⟨hslash, hrest⟩ := huncut.of_append fun b hb => by
      obtain ⟨c, -, hc⟩ := List.mem_map.1 hb
      exact Lexeme.single_ne_ofLiteral b c hc.symm
    rcases List.mem_cons.1 hmem with heq | hmem
    · rw [Part.literal.inj heq, String.toList_ofList]
      refine ⟨by simpa using hne, fun hc => hslash rfl ?_⟩
      exact List.mem_map.2 ⟨'/', hc, rfl⟩
    · exact ih hrest hmem
  | @parameter body rest p ls s hp hs ih =>
    obtain ⟨-, hrest⟩ := huncut.2.of_append fun b hb => by
      obtain ⟨c, -, hc⟩ := List.mem_map.1 hb
      exact Lexeme.single_ne_ofLiteral b c hc.symm
    rcases List.mem_cons.1 hmem with heq | hmem
    · cases heq
    · exact ih hrest.2 hmem

/-- Each parameter that lexemes spell is read from some text. -/
theorem Segment.Grammar.parameter_of_mem {ls : List Lexeme} {s : Segment}
    (h : Segment.Grammar ls s) {p : Parameter} (hmem : .parameter p ∈ s) :
    ∃ body rest, p.ReadFrom body rest := by
  induction h with
  | nil => cases hmem
  | literal hne hnext hs ih =>
    rcases List.mem_cons.1 hmem with heq | hmem
    · cases heq
    · exact ih hmem
  | parameter hp hs ih =>
    rcases List.mem_cons.1 hmem with heq | hmem
    · cases heq
      exact ⟨_, _, hp⟩
    · exact ih hmem

/-- Reading accepts no segment in which parameters stand side by side. -/
theorem hasAdjacentParameters_of_complexError? {raw : String} {parts : List Part}
    (h : complexError? raw parts = none) : hasAdjacentParameters parts = false := by
  unfold complexError? at h
  split at h
  next hle =>
    match parts, hle with
    | [], _ => rfl
    | [.literal _], _ => rfl
    | [.parameter _], _ => rfl
  next =>
    split at h
    · cases h
    · split at h
      · cases h
      next hadjacent => simpa using hadjacent

theorem Segment.ReadFrom.spaced {ls : List Lexeme} {s : Segment} (h : Segment.ReadFrom ls s) :
    s.Spaced where
  literals := fun _ hmem => (h.grammar.literal_of_mem h.uncut hmem).1
  parameters := hasAdjacentParameters_of_complexError? (h.faultless "")

/-- In a template that has been read no literal is empty and no two parameters of a segment stand
side by side. -/
theorem spaced_of_parse {text : String} {t : Template} (h : Template.parse text = .ok t) :
    ∀ s ∈ t.segments, s.Spaced := by
  intro s hs
  obtain ⟨ls, hread⟩ := Template.exists_readFrom_of_parse h hs
  exact hread.spaced

end UrlRouting

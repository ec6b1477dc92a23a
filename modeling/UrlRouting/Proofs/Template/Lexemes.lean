import Mathlib.Data.List.Basic
import UrlRouting.Template.Lexeme

/-!
# Lexemes and their spelling

Scanning undoes spelling on lexemes that are `Proper`, that is, of the kind that scanning makes
(`scan_spell`). Cutting lexemes into segments keeps what is put together of literal text and closed
pairs of braces (`splitSegments_append`).
-/

namespace UrlRouting.Lexeme

/-! ### Scanning -/

/-- Lexemes as scanning makes them: no brace is plain, and no single brace stands before a brace of
its kind. -/
def Proper : List Lexeme → Prop
  | [] => True
  | plain c :: ls => brace? c = none ∧ Proper ls
  | doubled _ :: ls => Proper ls
  | single b :: ls => (spell ls).head? ≠ some b.char ∧ Proper ls

@[simp] theorem brace?_char (b : Brace) : brace? b.char = some b := by cases b <;> rfl

@[simp] theorem spell_nil : spell [] = [] := rfl

@[simp] theorem spell_cons (l : Lexeme) (ls : List Lexeme) :
    spell (l :: ls) = l.spelling ++ spell ls := rfl

@[simp] theorem spell_append (ls ls' : List Lexeme) :
    spell (ls ++ ls') = spell ls ++ spell ls' := List.flatMap_append

theorem scan_plain {c : Char} (h : brace? c = none) (cs : List Char) :
    scan (c :: cs) = plain c :: scan cs := by
  cases cs <;> simp [scan, h]

theorem scan_doubled (b : Brace) (cs : List Char) :
    scan (b.char :: b.char :: cs) = doubled b :: scan cs := by
  simp [scan]

theorem scan_single {b : Brace} {cs : List Char} (h : cs.head? ≠ some b.char) :
    scan (b.char :: cs) = single b :: scan cs := by
  cases cs with
  | nil => simp [scan]
  | cons d cs =>
    have hd : d ≠ b.char := fun heq => h (congrArg some heq)
    simp [scan, hd]

/-- Scanning undoes spelling. -/
theorem scan_spell {ls : List Lexeme} (h : Proper ls) : scan (spell ls) = ls := by
  induction ls with
  | nil => rfl
  | cons l ls ih =>
    cases l with
    | plain c =>
      rw [spell_cons, spelling, List.singleton_append, scan_plain h.1, ih h.2]
    | doubled b =>
      rw [spell_cons, spelling, List.cons_append, List.singleton_append, scan_doubled, ih h]
    | single b =>
      rw [spell_cons, spelling, List.singleton_append, scan_single h.1, ih h.2]

theorem spelling_ne_nil (l : Lexeme) : l.spelling ≠ [] := by cases l <;> simp [spelling]

theorem head?_spell_append (l : Lexeme) (ls ls' : List Lexeme) :
    (spell (l :: ls ++ ls')).head? = (spell (l :: ls)).head? := by
  rw [List.cons_append, spell_cons, spell_cons]
  obtain ⟨c, rest, h⟩ := List.exists_cons_of_ne_nil l.spelling_ne_nil
  rw [h]
  rfl

/-- Proper lexemes may be put together unless a single brace meets a brace of its kind. -/
theorem Proper.append {ls ls' : List Lexeme} (h : Proper ls) (h' : Proper ls')
    (hmeet : ∀ b, ls.getLast? = some (single b) → (spell ls').head? ≠ some b.char) :
    Proper (ls ++ ls') := by
  induction ls with
  | nil => exact h'
  | cons l ls ih =>
    have hmeet' : ∀ b, ls.getLast? = some (single b) → (spell ls').head? ≠ some b.char := by
      intro b hb
      refine hmeet b ?_
      rw [List.getLast?_cons, hb, Option.getD_some]
    cases l with
    | plain c => exact ⟨h.1, ih h.2 hmeet'⟩
    | doubled b => exact ih h hmeet'
    | single b =>
      refine ⟨?_, ih h.2 hmeet'⟩
      cases ls with
      | nil => exact hmeet b rfl
      | cons l ls =>
        have hhead := head?_spell_append l ls ls'
        exact fun heq => h.1 (hhead.symm.trans heq)

/-- Scanning makes proper lexemes. -/
theorem proper_scan (cs : List Char) : Proper (scan cs) := by
  fun_induction scan cs with
  | case1 => trivial
  | case2 c b h => exact ⟨by simp [spell], trivial⟩
  | case3 c h => exact ⟨h, trivial⟩
  | case4 d rest b h ih => exact ih
  | case5 c d rest b h hd ih =>
    refine ⟨?_, ih⟩
    rw [spell_scan, char_of_brace? h]
    simpa using hd
  | case6 c d rest h ih => exact ⟨h, ih⟩

theorem Proper.of_append_right {ls ls' : List Lexeme} (h : Proper (ls ++ ls')) : Proper ls' := by
  induction ls with
  | nil => exact h
  | cons l ls ih =>
    cases l with
    | plain c => exact ih h.2
    | doubled b => exact ih h
    | single b => exact ih h.2

theorem Proper.of_append_left {ls ls' : List Lexeme} (h : Proper (ls ++ ls')) : Proper ls := by
  induction ls with
  | nil => trivial
  | cons l ls ih =>
    cases l with
    | plain c => exact ⟨h.1, ih h.2⟩
    | doubled b => exact ih h
    | single b =>
      refine ⟨?_, ih h.2⟩
      cases ls with
      | nil => exact nofun
      | cons l ls =>
        intro heq
        exact h.1 ((head?_spell_append l ls ls').trans heq)

/-! ### Cutting into segments -/

/-- Whether a parameter is open behind a lexeme, if one is or is not before it. -/
def insideAfter (inside : Bool) : Lexeme → Bool
  | single .left => true
  | single .right => false
  | _ => inside

theorem splitSegments_ne_nil (inside : Bool) (ls : List Lexeme) : splitSegments inside ls ≠ [] := by
  cases ls with
  | nil => exact List.cons_ne_nil _ _
  | cons l ls =>
    unfold splitSegments
    split
    · exact List.cons_ne_nil _ _
    · dsimp only
      split <;> exact List.cons_ne_nil _ _

/-- A slash outside of parameters ends a segment. -/
theorem splitSegments_slash (ls : List Lexeme) :
    splitSegments false (plain '/' :: ls) = [] :: splitSegments false ls := by
  have houtside : plain '/' = plain '/' ∧ false = false := ⟨rfl, rfl⟩
  conv_lhs => unfold splitSegments
  exact if_pos houtside

/-- Every other lexeme belongs to the segment that it stands in. -/
theorem splitSegments_cons {inside : Bool} {l : Lexeme} (h : ¬ (l = plain '/' ∧ inside = false))
    (ls : List Lexeme) : splitSegments inside (l :: ls) =
      (splitSegments (insideAfter inside l) ls).modifyHead (l :: ·) := by
  have hne := splitSegments_ne_nil (insideAfter inside l) ls
  generalize hrest : splitSegments (insideAfter inside l) ls = rest at hne ⊢
  unfold splitSegments
  rw [if_neg h]
  dsimp only
  generalize hrest' : splitSegments _ ls = rest'
  obtain rfl : rest' = rest := hrest'.symm.trans hrest
  cases rest' with
  | nil => exact absurd rfl hne
  | cons segment segments => rfl

/-- Cutting loses nothing but the slashes between the segments. -/
theorem intercalate_splitSegments (inside : Bool) (ls : List Lexeme) :
    [plain '/'].intercalate (splitSegments inside ls) = ls := by
  induction ls generalizing inside with
  | nil => rfl
  | cons l ls ih =>
    by_cases h : l = plain '/' ∧ inside = false
    · obtain ⟨rfl, rfl⟩ := h
      have hne := splitSegments_ne_nil false ls
      have hrest := ih false
      rw [splitSegments_slash]
      cases hsplit : splitSegments false ls with
      | nil => exact absurd hsplit hne
      | cons segment segments =>
        rw [hsplit] at hrest
        rw [List.intercalate_cons_cons, hrest]
        rfl
    · have hne := splitSegments_ne_nil (insideAfter inside l) ls
      have hrest := ih (insideAfter inside l)
      rw [splitSegments_cons h]
      cases hsplit : splitSegments (insideAfter inside l) ls with
      | nil => exact absurd hsplit hne
      | cons segment segments =>
        rw [hsplit] at hrest
        rw [List.modifyHead_cons]
        cases segments with
        | nil => simpa using hrest
        | cons segment' segments =>
          rw [List.intercalate_cons_cons] at hrest ⊢
          rw [List.cons_append, List.cons_append, hrest]

/-- Lexemes without a slash outside of parameters; `inside` says whether one is open before them. -/
def Uncut (inside : Bool) : List Lexeme → Prop
  | [] => True
  | l :: ls => ¬ (l = plain '/' ∧ inside = false) ∧ Uncut (insideAfter inside l) ls

/-- No segment holds a slash outside of parameters. -/
theorem uncut_splitSegments (inside : Bool) (ls : List Lexeme) :
    ∃ segment segments, splitSegments inside ls = segment :: segments ∧
      Uncut inside segment ∧ ∀ s ∈ segments, Uncut false s := by
  induction ls generalizing inside with
  | nil => exact ⟨[], [], rfl, trivial, List.forall_mem_nil _⟩
  | cons l ls ih =>
    by_cases h : l = plain '/' ∧ inside = false
    · obtain ⟨rfl, rfl⟩ := h
      obtain ⟨segment, segments, hsplit, hsegment, hsegments⟩ := ih false
      exact ⟨[], segment :: segments, by rw [splitSegments_slash, hsplit], trivial,
        List.forall_mem_cons.2 ⟨hsegment, hsegments⟩⟩
    · obtain ⟨segment, segments, hsplit, hsegment, hsegments⟩ := ih (insideAfter inside l)
      exact ⟨l :: segment, segments, by rw [splitSegments_cons h, hsplit, List.modifyHead_cons],
        ⟨h, hsegment⟩, hsegments⟩

/-- Where no parameter is opened or closed, slashes stand inside of one. -/
theorem Uncut.of_append {inside : Bool} {ls rest : List Lexeme} (h : Uncut inside (ls ++ rest))
    (hsingle : ∀ b, single b ∉ ls) :
    (inside = false → plain '/' ∉ ls) ∧ Uncut inside rest := by
  induction ls with
  | nil => exact ⟨fun _ => List.not_mem_nil, h⟩
  | cons l ls ih =>
    have hinside : insideAfter inside l = inside := by
      match l, hsingle with
      | plain _, _ | doubled _, _ => rfl
      | single b, hsingle => exact absurd List.mem_cons_self (hsingle b)
    obtain ⟨hhead, htail⟩ := h
    rw [hinside] at htail
    obtain ⟨hslash, hrest⟩ := ih htail fun b hb => hsingle b (List.mem_cons_of_mem _ hb)
    refine ⟨fun houtside hmem => ?_, hrest⟩
    rcases List.mem_cons.1 hmem with heq | hmem
    · exact hhead ⟨heq.symm, houtside⟩
    · exact hslash houtside hmem

/-- Lexemes that open and close no parameter and end no segment belong to the segment that they
stand in. -/
theorem splitSegments_append {inside : Bool} {ls : List Lexeme}
    (hsingle : ∀ b, single b ∉ ls) (hslash : inside = false → plain '/' ∉ ls) (rest : List Lexeme) :
    splitSegments inside (ls ++ rest) =
      (splitSegments inside rest).modifyHead (ls ++ ·) := by
  induction ls with
  | nil => exact (congrFun List.modifyHead_id _).symm
  | cons l ls ih =>
    have hinside : insideAfter inside l = inside := by
      match l, hsingle with
      | plain _, _ | doubled _, _ => rfl
      | single b, hsingle => exact absurd List.mem_cons_self (hsingle b)
    rw [List.cons_append, splitSegments_cons, hinside, ih, List.modifyHead_modifyHead]
    · rfl
    · exact fun b hb => hsingle b (List.mem_cons_of_mem _ hb)
    · exact fun hinside hmem => hslash hinside (List.mem_cons_of_mem _ hmem)
    · rintro ⟨rfl, houtside⟩
      exact hslash houtside List.mem_cons_self

/-! ### Literal text -/

/-- A character of a literal as a lexeme. -/
def ofLiteral (c : Char) : Lexeme :=
  match brace? c with
  | some b => .doubled b
  | none => .plain c

theorem spelling_ofLiteral (c : Char) :
    (ofLiteral c).spelling = if c = '\x7b' ∨ c = '\x7d' then [c, c] else [c] := by
  unfold ofLiteral brace?
  by_cases hleft : c = '\x7b'
  · subst hleft
    rfl
  · by_cases hright : c = '\x7d'
    · subst hright
      rfl
    · simp [hleft, hright, spelling]

theorem single_ne_ofLiteral (b : Brace) (c : Char) : single b ≠ ofLiteral c := by
  unfold ofLiteral
  split <;> exact Lexeme.noConfusion

theorem plain_of_ofLiteral {c d : Char} (h : plain d = ofLiteral c) : d = c := by
  unfold ofLiteral at h
  split at h
  · cases h
  · exact Lexeme.plain.inj h

theorem proper_ofLiteral (cs : List Char) : Proper (cs.map ofLiteral) := by
  induction cs with
  | nil => trivial
  | cons c cs ih =>
    rw [List.map_cons]
    unfold ofLiteral
    split
    next => exact ih
    next h => exact ⟨h, ih⟩

theorem proper_plain {cs : List Char} (h : ∀ c ∈ cs, brace? c = none) : Proper (cs.map plain) := by
  induction cs with
  | nil => trivial
  | cons c cs ih =>
    rw [List.forall_mem_cons] at h
    exact ⟨h.1, ih h.2⟩

end UrlRouting.Lexeme

/-!
# Braces in template text

Template text is first read as lexemes: a brace written twice stands for itself, a brace
written once opens or closes a parameter, and every other character is plain. Reading loses
nothing: `spell` gives the text back.
-/

namespace UrlRouting

/-- The two braces. -/
inductive Brace where
  /-- The left brace. -/
  | left
  /-- The right brace. -/
  | right
deriving Repr, DecidableEq

/-- The character of a brace. -/
def Brace.char : Brace → Char
  | left => '\x7b'
  | right => '\x7d'

/-- A unit of template text. -/
inductive Lexeme where
  /-- A brace written twice. -/
  | doubled (b : Brace)
  /-- A brace written once. -/
  | single (b : Brace)
  /-- Any other character. -/
  | plain (c : Char)
deriving Repr, DecidableEq

namespace Lexeme

/-- The text of a lexeme. -/
def spelling : Lexeme → List Char
  | doubled b => [b.char, b.char]
  | single b => [b.char]
  | plain c => [c]

/-- The text of some lexemes. -/
def spell (ls : List Lexeme) : List Char := ls.flatMap spelling

/-- The brace that a character is. -/
def brace? (c : Char) : Option Brace :=
  if c = '\x7b' then some .left else if c = '\x7d' then some .right else none

/-- The lexemes of a text. Braces are paired from the left. -/
def scan : List Char → List Lexeme
  | [] => []
  | [c] => match brace? c with
    | some b => [single b]
    | none => [plain c]
  | c :: d :: rest => match brace? c with
    | some b => if d = c then doubled b :: scan rest else single b :: scan (d :: rest)
    | none => plain c :: scan (d :: rest)

/-- The segments of some lexemes: the parts between plain slashes that stand outside of
parameters. `inside` says whether a parameter is open. -/
def splitSegments (inside : Bool) : List Lexeme → List (List Lexeme)
  | [] => [[]]
  | l :: rest =>
    if l = plain '/' ∧ inside = false then [] :: splitSegments false rest
    else
      let inside' := match l with
        | single .left => true
        | single .right => false
        | _ => inside
      match splitSegments inside' rest with
      | segment :: segments => (l :: segment) :: segments
      | [] => [[l]]

theorem char_of_brace? {c : Char} {b : Brace} (h : brace? c = some b) : b.char = c := by
  unfold brace? at h
  split at h
  · cases h; simp_all [Brace.char]
  · split at h
    · cases h; simp_all [Brace.char]
    · cases h

/-- Scanning loses nothing. -/
theorem spell_scan (cs : List Char) : spell (scan cs) = cs := by
  fun_induction scan cs with
  | case1 => rfl
  | case2 c b h => simp [spell, spelling, char_of_brace? h]
  | case3 c h => simp [spell, spelling]
  | case4 d rest b h ih => simpa [spell, spelling, char_of_brace? h] using ih
  | case5 c d rest b h hd ih => simpa [spell, spelling, char_of_brace? h] using ih
  | case6 c d rest h ih => simpa [spell, spelling] using ih

end Lexeme

end UrlRouting

import UrlRouting.Text.Letters

/-!
# Sets of characters

The character classes of search patterns: sets of characters as closed intervals of code
points, with the named ASCII classes, complement and the closure under ASCII case.
-/

namespace UrlRouting.Regex

open Text

/-- A set of characters as closed intervals of code points. -/
abbrev CharSet := CodeRanges

namespace CharSet

/-- The last code point. -/
def lastCode : Nat := 0x10ffff

/-- Joins an interval with the intervals after it that it overlaps or touches, and those in
turn with the ones after them. The intervals ascend by their lower ends. -/
def joinFrom (a b : Nat) : CharSet → CharSet
  | [] => [(a, b)]
  | (c, d) :: rest =>
    if c ≤ b + 1 then joinFrom a (max b d) rest else (a, b) :: joinFrom c d rest

/-- Joins ascending intervals that overlap or touch. -/
def joinRanges : CharSet → CharSet
  | [] => []
  | (a, b) :: rest => joinFrom a b rest

/-- The same set as ascending intervals with gaps between them. -/
def normalize (s : CharSet) : CharSet :=
  joinRanges (s.mergeSort fun x y => x.1 < y.1 || (x.1 == y.1 && x.2 ≤ y.2))

/-- The gaps of ascending intervals from the code point `low` on. -/
def gaps (low : Nat) : CharSet → CharSet
  | [] => if low ≤ lastCode then [(low, lastCode)] else []
  | (a, b) :: rest => if low < a then (low, a - 1) :: gaps (b + 1) rest else gaps (b + 1) rest

/-- All characters that are not in a set. -/
def complement (s : CharSet) : CharSet := gaps 0 s.normalize

/-- The part of an interval that lies in another one. -/
def clip (low high : Nat) (r : Nat × Nat) : Option (Nat × Nat) :=
  let a := max low r.1
  let b := min high r.2
  if a ≤ b then some (a, b) else none

/-- The other case of the ASCII letters of an interval. An interval that holds lower-case
letters gives their capitals, and only another one gives the small forms of its capitals. -/
def otherCase? (r : Nat × Nat) : Option (Nat × Nat) :=
  match clip 0x61 0x7a r with
  | some (a, b) => some (a - 0x20, b - 0x20)
  | none => (clip 0x41 0x5a r).map fun (a, b) => (a + 0x20, b + 0x20)

/-- A set with the other case of its ASCII letters. -/
def withCases (s : CharSet) : CharSet :=
  let s := s.normalize
  normalize (s ++ s.filterMap otherCase?)

/-- Whether a character is in the set. -/
def has (s : CharSet) (c : Char) : Bool := CodeRanges.contains s c.toNat

/-- All characters. -/
def all : CharSet := [(0, lastCode)]

/-- The decimal digits of ASCII. -/
def digits : CharSet := [(0x30, 0x39)]

/-- The blanks of ASCII. -/
def blanks : CharSet := [(0x09, 0x0d), (0x20, 0x20)]

/-- The letters and digits of ASCII and the underscore. -/
def wordChars : CharSet := [(0x30, 0x39), (0x41, 0x5a), (0x5f, 0x5f), (0x61, 0x7a)]

/-- The classes that are written by name, as in `[[:alpha:]]`. -/
def named : List (String × CharSet) :=
  [("alnum", [(0x30, 0x39), (0x41, 0x5a), (0x61, 0x7a)]),
   ("alpha", [(0x41, 0x5a), (0x61, 0x7a)]),
   ("ascii", [(0x00, 0x7f)]),
   ("blank", [(0x09, 0x09), (0x20, 0x20)]),
   ("cntrl", [(0x00, 0x1f), (0x7f, 0x7f)]),
   ("digit", digits),
   ("graph", [(0x21, 0x7e)]),
   ("lower", [(0x61, 0x7a)]),
   ("print", [(0x20, 0x7e)]),
   ("punct", [(0x21, 0x2f), (0x3a, 0x40), (0x5b, 0x60), (0x7b, 0x7e)]),
   ("space", blanks),
   ("upper", [(0x41, 0x5a)]),
   ("word", wordChars),
   ("xdigit", [(0x30, 0x39), (0x41, 0x46), (0x61, 0x66)])]

end CharSet

end UrlRouting.Regex

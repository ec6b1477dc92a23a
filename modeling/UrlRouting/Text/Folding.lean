import UrlRouting.Text.LowerCase
import UrlRouting.Text.Letters

/-!
# Folding text for comparison

`fold` writes a whole text in lower case, and `sameText` compares two texts without regard
to case. Folding goes character by character, except that a capital sigma becomes the final
form `ς` where a word ends and the medial form `σ` elsewhere, and that `İ` becomes an `i`
followed by a combining dot.
-/

namespace UrlRouting.Text

/-- Whether the nearest character that case does not skip is a letter with a case. -/
def reachesCased (cs : List Char) : Bool :=
  match cs.dropWhile isCaseIgnorable with
  | c :: _ => isCased c
  | [] => false

/-- Whether a letter with `before` on its left (nearest first) and `after` on its right is
the last letter of a word. -/
def endsWord (before after : List Char) : Bool := reachesCased before && !reachesCased after

/-- The folded form of one character, given its neighbourhood. -/
def foldChar (before : List Char) (c : Char) (after : List Char) : List Char :=
  if c = 'Σ' then [if endsWord before after then 'ς' else 'σ']
  else if c = 'İ' then ['i', '\u0307']
  else [lowerChar c]

/-- The folded form of a text that stands right of `before` (nearest first). -/
def foldAfter (before : List Char) : List Char → List Char
  | [] => []
  | c :: rest => foldChar before c rest ++ foldAfter (c :: before) rest

/-- The folded form of a text: the form under which texts that differ in case alone agree. -/
def fold (s : String) : String := String.ofList (foldAfter [] s.toList)

/-- Whether two texts are equal up to the case of their ASCII letters. -/
def sameAscii (a b : String) : Bool := a.toList.map Char.toLower == b.toList.map Char.toLower

/-- Whether two texts are equal up to case. -/
def sameText (a b : String) : Bool := sameAscii a b || fold a == fold b

@[simp] theorem foldAfter_nil (before : List Char) : foldAfter before [] = [] := rfl

theorem toList_fold (s : String) : (fold s).toList = foldAfter [] s.toList := by
  simp [fold]

theorem sameText_self (a : String) : sameText a a = true := by simp [sameText]

end UrlRouting.Text

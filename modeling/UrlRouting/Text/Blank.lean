/-!
# Blanks

The white space of Unicode, and the text that is left when it is taken from both ends.
-/

namespace UrlRouting.Text

/-- White space of any script. -/
def isBlank (c : Char) : Bool :=
  let n := c.toNat
  (0x9 ≤ n && n ≤ 0xd) || n == 0x20 || n == 0x85 || n == 0xa0 || n == 0x1680
    || (0x2000 ≤ n && n ≤ 0x200a) || n == 0x2028 || n == 0x2029 || n == 0x202f
    || n == 0x205f || n == 0x3000

/-- A list without the elements at both ends that satisfy `p`. -/
def trimBoth {α : Type} (p : α → Bool) (cs : List α) : List α :=
  ((cs.dropWhile p).reverse.dropWhile p).reverse

/-- A text without the blanks at both ends. -/
def trimBlanks (s : String) : String := String.ofList (trimBoth isBlank s.toList)

end UrlRouting.Text

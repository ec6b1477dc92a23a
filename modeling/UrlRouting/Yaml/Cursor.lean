/-!
# Places in a YAML text

A `Cursor` is the part of a text that is still to be read, with the place where it begins. A line
ends with a line feed, a carriage return, both together, or one of the separators of Unicode.
-/

namespace UrlRouting.Yaml

/-- Whether a character ends a line. -/
def isBreak (c : Char) : Bool :=
  c == '\n' || c == '\r' || c == '\u0085' || c == '\u2028' || c == '\u2029'

/-- Whether a character is a blank inside a line. -/
def isSpace (c : Char) : Bool := c == ' ' || c == '\t'

/-- Whether a character may stand in a text at all. -/
def isPrintable (c : Char) : Bool :=
  let n := c.toNat
  n == 0x9 || n == 0xa || n == 0xd || (0x20 ≤ n && n ≤ 0x7e) || n == 0x85
    || (0xa0 ≤ n && n ≤ 0xd7ff) || (0xe000 ≤ n && n ≤ 0xfffd) || 0x10000 ≤ n

/-- A text that is still to be read. -/
structure Cursor where
  /-- The characters that are left. -/
  rest : List Char
  /-- How many characters have been read. -/
  index : Nat := 0
  /-- How many lines have been read. -/
  line : Nat := 0
  /-- How many characters of this line have been read. -/
  column : Nat := 0

namespace Cursor

/-- The character `n` places ahead. -/
def peek? (c : Cursor) (n : Nat) : Option Char := c.rest[n]?

/-- Whether a character stands `n` places ahead. -/
def sees (c : Cursor) (n : Nat) (ch : Char) : Bool := c.peek? n == some ch

/-- Whether a blank or the end of a line or of the text is `n` places ahead. -/
def endsAt (c : Cursor) (n : Nat) : Bool :=
  match c.peek? n with
  | none => true
  | some ch => isSpace ch || isBreak ch

/-- Goes `n` characters further in this line. -/
def step (c : Cursor) (n : Nat) : Cursor :=
  { c with rest := c.rest.drop n, index := c.index + n, column := c.column + n }

/-- Goes to the next line. Gives the text that the end of the line stands for. -/
def nextLine (c : Cursor) : List Char × Cursor :=
  let after (n : Nat) : Cursor :=
    { rest := c.rest.drop n, index := c.index + n, line := c.line + 1, column := 0 }
  match c.rest with
  | '\r' :: '\n' :: _ => (['\n'], after 2)
  | ch :: _ => ([if ch == '\u2028' || ch == '\u2029' then ch else '\n'], after 1)
  | [] => ([], c)

/-- Whether a line begins with three of a sign and then ends or goes on with a blank. -/
def atMark (c : Cursor) (sign : Char) : Bool :=
  c.column == 0 && c.sees 0 sign && c.sees 1 sign && c.sees 2 sign && c.endsAt 3

/-- Whether a line marks the beginning or the end of a document. -/
def atDocumentMark (c : Cursor) : Bool := c.atMark '-' || c.atMark '.'

end Cursor

/-! ### Gaps -/

/-- Blanks and ends of lines between two parts of a scalar. -/
structure Gap where
  /-- The blanks before the first end of a line. -/
  blanks : List Char := []
  /-- The first end of a line, if there is one. -/
  first? : Option (List Char) := none
  /-- The further ends of lines. -/
  more : List Char := []

namespace Gap

/-- The text that a gap inside a scalar stands for: a single line feed becomes a blank, and of
several the first one is dropped. -/
def text (g : Gap) : List Char :=
  match g.first? with
  | none => g.blanks
  | some ['\n'] => if g.more.isEmpty then [' '] else g.more
  | some first => first ++ g.more

end Gap

/-- Reads a gap. In a plain scalar (`indent?`) no tab may stand left of the indentation. -/
def readGap (indent? : Option Nat) : Nat → Gap → Cursor → Option (Gap × Cursor)
  | 0, g, c => some (g, c)
  | fuel + 1, g, c =>
    match c.rest with
    | [] => some (g, c)
    | ch :: _ =>
      if isSpace ch then
        match g.first? with
        | none => readGap indent? fuel { g with blanks := g.blanks ++ [ch] } (c.step 1)
        | some _ =>
          if ch == '\t' && indent?.any (c.column < ·) then none
          else readGap indent? fuel g (c.step 1)
      else if isBreak ch then
        let (text, next) := c.nextLine
        match g.first? with
        | none => readGap indent? fuel { g with first? := some text } next
        | some _ => readGap indent? fuel { g with more := g.more ++ text } next
      else some (g, c)

end UrlRouting.Yaml

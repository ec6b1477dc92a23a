import UrlRouting.Text.Numeral
import UrlRouting.Yaml.Cursor

/-!
# Scalars of a YAML text

Scalars are written plainly, between single quotes or between double quotes, and may extend over
several lines.
-/

namespace UrlRouting.Yaml

open Text

/-! ### Plain scalars -/

/-- The characters that end a plain scalar inside brackets. -/
def isFlowSign (c : Char) : Bool := c == ',' || c == '[' || c == ']' || c == '\x7b' || c == '\x7d'

/-- Reads the characters of a plain scalar up to a blank or a sign that ends it. Inside brackets a
colon may not stand before a sign. -/
def readPlainWord (inFlow : Bool) : Nat → Cursor → Option (List Char × Cursor)
  | 0, c => some ([], c)
  | fuel + 1, c =>
    match c.rest with
    | [] => some ([], c)
    | ch :: _ =>
      if c.endsAt 0 then some ([], c)
      else if inFlow && ch == ':' && (c.peek? 1).any fun next => isFlowSign next || next == '?' then
        none
      else if (ch == ':' && c.endsAt 1) || (inFlow && isFlowSign ch) then some ([], c)
      else (readPlainWord inFlow fuel (c.step 1)).map fun (word, c) => (ch :: word, c)

/-- What has been read of a plain scalar. -/
structure PlainText where
  /-- The text. -/
  text : List Char
  /-- Where the scalar ends; blanks after it have been read. -/
  cursor : Cursor
  /-- Whether the end of a line has been read after the text. -/
  endsLine : Bool

/-- Reads a plain scalar whose further lines are indented by `indent`. -/
def readPlain (inFlow : Bool) (indent : Nat) : Nat → List Char → Gap → Cursor → Option PlainText
  | 0, _, _, _ => none
  | fuel + 1, sofar, gap, c =>
    if c.atDocumentMark || c.sees 0 '#' then some ⟨sofar, c, gap.first?.isSome⟩
    else
      match readPlainWord inFlow c.rest.length c with
      | none => none
      | some (word, next) =>
        let text := if word.isEmpty then sofar else sofar ++ gap.text ++ word
        let endsLine := word.isEmpty && gap.first?.isSome
        if next.rest.isEmpty || !next.endsAt 0 then some ⟨text, next, endsLine⟩
        else
          match readGap (some indent) next.rest.length {} next with
          | none => none
          | some (gap, after) =>
            if !inFlow && after.column < indent then some ⟨text, after, gap.first?.isSome⟩
            else readPlain inFlow indent fuel text gap after

/-! ### Quoted scalars -/

/-- Escapes of one letter. -/
def letterEscapes : List (Char × Char) :=
  [('0', '\x00'), ('a', '\x07'), ('b', '\x08'), ('t', '\t'), ('\t', '\t'), ('n', '\n'),
    ('v', '\x0b'), ('f', '\x0c'), ('r', '\r'), ('e', '\x1b'), (' ', ' '), ('"', '"'), ('/', '/'),
    ('\\', '\\'), ('N', '\u0085'), ('_', '\u00a0'), ('L', '\u2028'), ('P', '\u2029')]

/-- How many hexadecimal digits follow the letter of a numeric escape. -/
def escapeDigits? (c : Char) : Option Nat :=
  [('x', 2), ('u', 4), ('U', 8)].lookup c

/-- Reads hexadecimal digits. -/
def readHex? (cs : List Char) : Option Nat :=
  cs.foldl (fun n? c =>
    match n?, hexDigitValue? c with
    | some n, some d => some (n * 16 + d)
    | _, _ => none) (some 0)

/-- Reads an escape after its backslash: the character and how many were read. -/
def readEscape? (c : Cursor) : Option (Char × Nat) :=
  match c.rest with
  | [] => none
  | letter :: rest =>
    match letterEscapes.lookup letter, escapeDigits? letter with
    | some ch, _ => some (ch, 1)
    | none, none => none
    | none, some count =>
      let digits := rest.take count
      if digits.length < count then none
      else
        (readHex? digits).bind fun n =>
          if h : n.isValidChar then some (Char.ofNatAux n h, count + 1) else none

/-- What has been read of a quoted scalar up to a blank, its end, or an escaped end of a line. -/
structure QuotedWord where
  /-- The characters. -/
  word : List Char
  /-- Where they end. -/
  cursor : Cursor
  /-- Whether the end of a line was escaped. -/
  escapedBreak : Bool

/-- Reads the characters of a quoted scalar. -/
def readQuotedWord (quote : Char) : Nat → Cursor → Option QuotedWord
  | 0, c => some ⟨[], c, false⟩
  | fuel + 1, c =>
    match c.rest with
    | [] => some ⟨[], c, false⟩
    | ch :: _ =>
      let goOn (ch : Char) (next : Cursor) : Option QuotedWord :=
        (readQuotedWord quote fuel next).map fun w => { w with word := ch :: w.word }
      if c.endsAt 0 then some ⟨[], c, false⟩
      else if quote == '\'' && ch == '\'' && c.sees 1 '\'' then goOn '\'' (c.step 2)
      else if ch == quote then some ⟨[], c, false⟩
      else if quote == '"' && ch == '\\' then
        if (c.peek? 1).any isBreak then some ⟨[], (c.step 1).nextLine.2, true⟩
        else
          match readEscape? (c.step 1) with
          | some (escaped, count) => goOn escaped (c.step (count + 1))
          | none => none
      else goOn ch (c.step 1)

/-- Reads a quoted scalar after its opening quote. -/
def readQuoted (quote : Char) : Nat → List Char → Cursor → Option (List Char × Cursor)
  | 0, _, _ => none
  | fuel + 1, sofar, c =>
    if c.atDocumentMark || c.rest.isEmpty then none
    else
      match readQuotedWord quote c.rest.length c with
      | none => none
      | some w =>
        let text := sofar ++ w.word
        if w.cursor.sees 0 quote then some (text, w.cursor.step 1)
        else
          let gap : Gap := { first? := if w.escapedBreak then some [] else none }
          match readGap none w.cursor.rest.length gap w.cursor with
          | none => none
          | some (gap, after) => readQuoted quote fuel (text ++ gap.text) after

end UrlRouting.Yaml

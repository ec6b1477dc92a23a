import UrlRouting.Yaml.Scalar

/-!
# Tokens of a YAML text

`Token.scan?` turns a text into tokens. Indentation becomes tokens of its own, so that what reads
them need not look at columns. Whether a scalar or a collection in brackets is the key of a mapping
shows only at the colon after it: until then it is a candidate, and at the colon the token for a key
is put in front of it.
-/

namespace UrlRouting.Yaml

/-- A token. -/
inductive Token where
  /-- The mark in front of a document. -/
  | documentStart
  /-- The mark behind a document. -/
  | documentEnd
  /-- A list in lines begins. -/
  | blockListStart
  /-- A mapping in lines begins. -/
  | blockMapStart
  /-- A list or a mapping in lines ends. -/
  | blockEnd
  /-- An item of a list in lines. -/
  | blockEntry
  /-- An opening square bracket. -/
  | listOpen
  /-- A closing square bracket. -/
  | listClose
  /-- An opening brace. -/
  | mapOpen
  /-- A closing brace. -/
  | mapClose
  /-- A comma inside brackets. -/
  | comma
  /-- A key follows. -/
  | key
  /-- A value follows. -/
  | value
  /-- A scalar, and whether it is written plainly. -/
  | scalar (isPlain : Bool) (text : String)
deriving Repr, DecidableEq

/-- Something that will be a key if a colon follows in its line. -/
structure KeyCandidate where
  /-- The number of the token in front of which the token for a key would stand. -/
  position : Nat
  /-- Whether nothing but a key may stand there. -/
  isRequired : Bool
  /-- Where the candidate begins. -/
  start : Cursor

/-- A text that is being turned into tokens. -/
structure Scanner where
  /-- The text that is left. -/
  cursor : Cursor
  /-- The tokens so far. -/
  tokens : Array Token := #[]
  /-- The columns of the collections in lines that are open, the innermost first. -/
  indents : List Nat := []
  /-- Whether a key in lines may begin here. -/
  allowsKey : Bool := true
  /-- The candidate for a key outside all brackets, and before it those of the open brackets, the
  innermost first. -/
  candidates : List (Option KeyCandidate) := [none]

namespace Scanner

/-- Whether the text stands inside brackets. -/
def inFlow (s : Scanner) : Bool := 1 < s.candidates.length

/-- Adds a token. -/
def push (s : Scanner) (t : Token) : Scanner := { s with tokens := s.tokens.push t }

/-- Goes on in the line. -/
def step (s : Scanner) (n : Nat) : Scanner := { s with cursor := s.cursor.step n }

/-! ### Indentation -/

/-- Opens a collection in lines at a column that lies right of the open ones. Its token is put in
front of token `position`. -/
def openBlock (s : Scanner) (column position : Nat) (t : Token) : Scanner :=
  if s.inFlow || s.indents.head?.any (column ≤ ·) then s
  else
    { s with
      indents := column :: s.indents
      tokens := (s.tokens.toList.insertIdx position t).toArray }

/-- Closes the collections in lines that lie right of a column. -/
def closeBlocks (s : Scanner) (column : Nat) : Scanner :=
  if s.inFlow then s
  else
    { s with
      indents := s.indents.dropWhile (column < ·)
      tokens := s.tokens ++ ((s.indents.takeWhile (column < ·)).map fun _ => Token.blockEnd).toArray }

/-- Closes all collections in lines. -/
def closeAllBlocks (s : Scanner) : Scanner :=
  if s.inFlow then s
  else
    { s with
      indents := []
      tokens := s.tokens ++ (s.indents.map fun _ => Token.blockEnd).toArray }

/-! ### Candidates for keys -/

/-- The innermost candidate. -/
def candidate? (s : Scanner) : Option KeyCandidate := s.candidates.head?.join

/-- Puts something in the place of the innermost candidate. -/
def setCandidate (s : Scanner) (candidate? : Option KeyCandidate) : Scanner :=
  { s with candidates := candidate? :: s.candidates.drop 1 }

/-- Gives the innermost candidate up, unless it has to be a key. -/
def dropCandidate? (s : Scanner) : Option Scanner :=
  if s.candidate?.any (·.isRequired) then none else some (s.setCandidate none)

/-- Whether a candidate can still become a key: it must begin in this line, and not too far back. -/
def isFresh (s : Scanner) (k : KeyCandidate) : Bool :=
  k.start.line == s.cursor.line && s.cursor.index ≤ k.start.index + 1024

/-- Gives up all candidates that cannot become keys. -/
def dropStale? (s : Scanner) : Option Scanner :=
  let isStale (k : KeyCandidate) : Bool := !s.isFresh k
  if s.candidates.any fun k? => k?.any fun k => k.isRequired && isStale k then none
  else some { s with candidates := s.candidates.map fun k? => k?.filter s.isFresh }

/-- Takes note of a candidate for a key where one may begin. -/
def saveCandidate? (s : Scanner) : Option Scanner :=
  if s.allowsKey then
    (s.dropCandidate?).map fun s' =>
      s'.setCandidate (some
        { position := s.tokens.size
          isRequired := !s.inFlow && s.indents.head? == some s.cursor.column
          start := s.cursor })
  else some s

/-- Makes the innermost candidate a key. -/
def putKey (s : Scanner) (k : KeyCandidate) : Scanner :=
  let s := { s with tokens := (s.tokens.toList.insertIdx k.position .key).toArray }
  { (s.setCandidate none).openBlock k.start.column k.position .blockMapStart with
    allowsKey := false }

/-! ### Tokens -/

/-- The mark that a text in Unicode may begin with. -/
def byteOrderMark : Char := '\ufeff'

/-- Goes over blanks, ends of lines and comments. A tab is no blank where a key may begin, and the
byte order mark is one at the beginning of a line. -/
def skipBlanks : Nat → Scanner → Scanner
  | 0, s => s
  | fuel + 1, s =>
    match s.cursor.rest with
    | [] => s
    | ch :: rest =>
      if ch == byteOrderMark && s.cursor.column == 0 then skipBlanks fuel (s.step 1)
      else if ch == ' ' || (ch == '\t' && (s.inFlow || !s.allowsKey)) then skipBlanks fuel (s.step 1)
      else if ch == '#' then
        skipBlanks fuel (s.step (1 + (rest.takeWhile (!isBreak ·)).length))
      else if isBreak ch then
        skipBlanks fuel
          { s with cursor := s.cursor.nextLine.2, allowsKey := s.allowsKey || !s.inFlow }
      else s

/-- A mark in front of or behind a document. -/
def documentMark? (s : Scanner) (t : Token) : Option Scanner :=
  (s.closeAllBlocks.dropCandidate?).map fun s =>
    { (s.push t).step 3 with allowsKey := false }

/-- An opening bracket. -/
def opening? (s : Scanner) (t : Token) : Option Scanner :=
  (s.saveCandidate?).map fun s =>
    { (s.push t).step 1 with candidates := none :: s.candidates, allowsKey := true }

/-- A closing bracket. -/
def closing? (s : Scanner) (t : Token) : Option Scanner :=
  (s.dropCandidate?).map fun s =>
    { (s.push t).step 1 with
      candidates := if s.inFlow then s.candidates.drop 1 else s.candidates, allowsKey := false }

/-- A comma. -/
def comma? (s : Scanner) : Option Scanner :=
  (s.dropCandidate?).map fun s => { (s.push .comma).step 1 with allowsKey := true }

/-- A dash in front of an item. -/
def entry? (s : Scanner) : Option Scanner :=
  if !s.inFlow && !s.allowsKey then none
  else
    ((s.openBlock s.cursor.column s.tokens.size .blockListStart).dropCandidate?).map fun s =>
      { (s.push .blockEntry).step 1 with allowsKey := true }

/-- A question mark in front of a key. -/
def key? (s : Scanner) : Option Scanner :=
  if !s.inFlow && !s.allowsKey then none
  else
    ((s.openBlock s.cursor.column s.tokens.size .blockMapStart).dropCandidate?).map fun s =>
      { (s.push .key).step 1 with allowsKey := !s.inFlow }

/-- A colon in front of a value. -/
def value? (s : Scanner) : Option Scanner :=
  match s.candidate? with
  | some k => some (((s.putKey k).push .value).step 1)
  | none =>
    if !s.inFlow && !s.allowsKey then none
    else
      let s := s.openBlock s.cursor.column s.tokens.size .blockMapStart
      some { (s.push .value).step 1 with allowsKey := !s.inFlow }

/-- A scalar between quotes. -/
def quoted? (s : Scanner) (quote : Char) : Option Scanner :=
  match s.saveCandidate?, readQuoted quote (s.cursor.rest.length + 1) [] (s.cursor.step 1) with
  | some s, some (text, cursor) =>
    some { s.push (.scalar false (String.ofList text)) with cursor, allowsKey := false }
  | _, _ => none

/-- A plain scalar. -/
def plain? (s : Scanner) : Option Scanner :=
  let indent := match s.indents with
    | [] => 0
    | column :: _ => column + 1
  match s.saveCandidate?, readPlain s.inFlow indent (s.cursor.rest.length + 1) [] {} s.cursor with
  | some s, some read =>
    some
      { s.push (.scalar true (String.ofList read.text)) with
        cursor := read.cursor, allowsKey := read.endsLine }
  | _, _ => none

/-- The signs that no plain scalar begins with. -/
def indicators : List Char :=
  ['-', '?', ':', ',', '[', ']', '\x7b', '\x7d', '#', '&', '*', '!', '|', '>', '\'', '"', '%',
    '@', '\x60']

/-- Whether a plain scalar begins here. -/
def startsPlain (s : Scanner) (ch : Char) : Bool :=
  !(indicators.contains ch || s.cursor.endsAt 0)
    || (ch == '-' && !(s.cursor.peek? 1).any isSpace)
    || (!s.inFlow && (ch == '?' || ch == ':') && !s.cursor.endsAt 1)

/-- The token that begins with a character. Anchors, tags, directives and block scalars are not
read. -/
def token? (s : Scanner) (ch : Char) : Option Scanner :=
  let c := s.cursor
  if c.column == 0 && ch == '%' then none
  else if c.atMark '-' then s.documentMark? .documentStart
  else if c.atMark '.' then s.documentMark? .documentEnd
  else if ch == '[' then s.opening? .listOpen
  else if ch == '\x7b' then s.opening? .mapOpen
  else if ch == ']' then s.closing? .listClose
  else if ch == '\x7d' then s.closing? .mapClose
  else if ch == ',' then s.comma?
  else if ch == '-' && c.endsAt 1 then s.entry?
  else if ch == '?' && (s.inFlow || c.endsAt 1) then s.key?
  else if ch == ':' && (s.inFlow || c.endsAt 1) then s.value?
  else if ch == '\'' || ch == '"' then s.quoted? ch
  else if s.startsPlain ch then s.plain?
  else none

/-- Reads tokens to the end of the text. Each one takes a character at least. -/
def run? : Nat → Scanner → Option (Array Token)
  | 0, _ => none
  | fuel + 1, s =>
    match (skipBlanks s.cursor.rest.length s).dropStale? with
    | none => none
    | some s =>
      match s.cursor.rest with
      | [] => (s.closeAllBlocks.dropCandidate?).map (·.tokens)
      | ch :: _ => ((s.closeBlocks s.cursor.column).token? ch).bind (run? fuel)

end Scanner

/-- The tokens of a text. -/
def Token.scan? (text : String) : Option (List Token) :=
  let cs := text.toList
  if cs.all isPrintable then
    (Scanner.run? (cs.length + 1) { cursor := { rest := cs } }).map Array.toList
  else none

end UrlRouting.Yaml

import UrlRouting.Regex.Basic
import UrlRouting.Regex.Error
import UrlRouting.Text.Alphabet
import UrlRouting.Text.Blank
import UrlRouting.Text.Numeral

/-!
# Reading search patterns

`Regex.parse` reads a pattern written in the common notation: literals and escapes, classes,
groups, alternatives, repetitions, conditions on a place and inline flags. Case is ASCII case,
and there is no look-around, no back-reference, no class of a Unicode property and no
operation on classes. A flag that is set in a group holds up to the end of that group, also in
the alternatives that follow.
-/

namespace UrlRouting.Regex

open Text

/-! ### The state of the reader -/

/-- What inline flags switch. -/
structure Flags where
  /-- Letters match their other case. -/
  ignoreCase : Bool := false
  /-- The anchors match at lines. -/
  multiLine : Bool := false
  /-- The dot matches line feeds. -/
  dotAll : Bool := false
  /-- Lines may end in a carriage return. -/
  crlf : Bool := false
  /-- Blanks and comments in the pattern do not count. -/
  verbose : Bool := false
deriving Repr, DecidableEq

/-- A reader of a pattern. -/
structure Reader where
  /-- What is still to be read. -/
  rest : List Char
  /-- The flags in force. -/
  flags : Flags
  /-- How many capture groups have begun so far. -/
  groups : Nat
  /-- The names of capture groups so far. -/
  names : List String

/-- What a step of reading gives: a result with the reader after it, or an error. -/
abbrev Reading (α : Type) := Except SyntaxError (α × Reader)

/-- Blanks and comments up to the end of their lines are left out. -/
def skipComments (inComment : Bool) : List Char → List Char
  | [] => []
  | c :: rest =>
    if inComment then skipComments (c != '\n') rest
    else if isBlank c then skipComments false rest
    else if c == '#' then skipComments true rest
    else c :: rest

namespace Reader

/-- The next character. -/
def next? (r : Reader) : Option Char := r.rest.head?

/-- Leaves out what does not count. -/
def skip (r : Reader) : Reader :=
  if r.flags.verbose then { r with rest := skipComments false r.rest } else r

/-- Takes one character. -/
def bump (r : Reader) : Reader := { r with rest := r.rest.tail }

/-- Takes one character and what does not count after it. -/
def advance (r : Reader) : Reader := r.bump.skip

/-- Takes a word, if it comes next. -/
def take? (r : Reader) (word : String) : Option Reader :=
  if word.toList.isPrefixOf r.rest then some { r with rest := r.rest.drop word.length } else none

/-- The character after the next one that counts. -/
def peekCounted? (r : Reader) : Option Char :=
  if r.flags.verbose then
    match r.rest.tail.dropWhile isBlank with
    | '#' :: more => (more.dropWhile isBlank).head?
    | more => more.head?
  else r.rest.tail.head?

end Reader

/-! ### Single characters -/

/-- The pattern of a character under the flags in force. -/
def charOf (flags : Flags) (c : Char) : Regex :=
  if flags.ignoreCase then
    match CharSet.otherCase? (c.toNat, c.toNat) with
    | some other => set (CharSet.normalize [(c.toNat, c.toNat), other])
    | none => char c
  else char c

/-- The pattern of the dot. -/
def dotOf (flags : Flags) : Regex :=
  if flags.dotAll then set CharSet.all
  else if flags.crlf then set (CharSet.complement [(0x0a, 0x0a), (0x0d, 0x0d)])
  else set (CharSet.complement [(0x0a, 0x0a)])

/-- The condition that `^` stands for. -/
def startOf (flags : Flags) : Look :=
  if flags.multiLine then (if flags.crlf then .lineStartCrlf else .lineStart) else .textStart

/-- The condition that `$` stands for. -/
def endOf (flags : Flags) : Look :=
  if flags.multiLine then (if flags.crlf then .lineEndCrlf else .lineEnd) else .textEnd

/-- Whether a character stands for itself after a backslash: printing and control characters
of ASCII other than letters, digits and angle brackets. -/
def isEscapable (c : Char) : Bool :=
  c.toNat < 0x80 && !c.isAlphanum && c != '<' && c != '>'

/-- Reads `count` hexadecimal digits. -/
def readHexDigits (count : Nat) (first : Bool) (value : Nat) (r : Reader) : Reading Nat :=
  match count with
  | 0 => .ok (value, r)
  | count + 1 =>
    let r := if first then r else r.advance
    match r.next? with
    | none => .error .truncatedFixedHex
    | some c =>
      match hexDigitValue? c with
      | some digit => readHexDigits count false (value * 16 + digit) r
      | none => .error .invalidFixedHexDigit

/-- Reads hexadecimal digits up to a closing brace. -/
def readHexBraces (fuel : Nat) (digits : List Nat) (r : Reader) : Reading (List Nat) :=
  match fuel with
  | 0 => .error .unclosedHexBraces
  | fuel + 1 =>
    let r := r.advance
    match r.next? with
    | none => .error .unclosedHexBraces
    | some '\x7d' => .ok (digits, r.advance)
    | some c =>
      match hexDigitValue? c with
      | some digit => readHexBraces fuel (digits ++ [digit]) r
      | none => .error .invalidHexDigitInBraces

/-- The character of a code point; none for surrogates and numbers out of range. -/
def charOfCode? (n : Nat) : Option Char := if n.isValidChar then some (Char.ofNat n) else none

/-- Reads a character given by its code point, after `x`, `u` or `U`. -/
def readHex (count : Nat) (r : Reader) : Reading Regex :=
  let r := r.advance
  match r.next? with
  | none => .error .truncatedHex
  | some '\x7b' =>
    match readHexBraces (r.rest.length + 1) [] r with
    | .error e => .error e
    | .ok (digits, r) =>
      if digits.isEmpty then .error .emptyHexBraces
      else
        match charOfCode? (digits.foldl (fun n d => n * 16 + d) 0) with
        | some c => .ok (charOf r.flags c, r)
        | none => .error .invalidHexInBraces
  | some _ =>
    match readHexDigits count true 0 r with
    | .error e => .error e
    | .ok (value, r) =>
      match charOfCode? value with
      | some c => .ok (charOf r.flags c, r.advance)
      | none => .error .invalidFixedHex

/-- The set of a class that is written as a backslash and a letter. -/
def letterClass? : Char → Option CharSet
  | 'd' => some CharSet.digits
  | 's' => some CharSet.blanks
  | 'w' => some CharSet.wordChars
  | 'D' => some (CharSet.complement CharSet.digits)
  | 'S' => some (CharSet.complement CharSet.blanks)
  | 'W' => some (CharSet.complement CharSet.wordChars)
  | _ => none

/-- The conditions that are written in braces after `\b`. -/
def boundaryNames : List (String × Look) :=
  [("start", .wordStart), ("end", .wordEnd), ("start-half", .wordStartHalf),
    ("end-half", .wordEndHalf)]

/-- Whether a character may stand in the name of such a condition. -/
def isBoundaryChar (c : Char) : Bool := c.isAlpha || c == '-'

/-- Reads the name of such a condition. -/
def readBoundaryName (fuel : Nat) (name : List Char) (r : Reader) : List Char × Reader :=
  match fuel, r.next? with
  | fuel + 1, some c =>
    if isBoundaryChar c then readBoundaryName fuel (name ++ [c]) r.advance else (name, r)
  | _, _ => (name, r)

/-- Reads what may follow `\b`: a name in braces. Braces that begin otherwise are left to be a
repetition. -/
def readBoundary (r : Reader) : Reading Regex :=
  if r.next? != some '\x7b' then .ok (look .wordBoundary, r)
  else
    let inner := r.advance
    match inner.next? with
    | none => .error .truncatedWordBoundary
    | some c =>
      if !isBoundaryChar c then .ok (look .wordBoundary, r)
      else
        let (name, after) := readBoundaryName (inner.rest.length + 1) [] inner
        if after.next? != some '\x7d' then .error .unclosedWordBoundary
        else
          match boundaryNames.lookup (String.ofList name) with
          | some l => .ok (look l, after.bump)
          | none => .error .unknownWordBoundary

/-- Reads an escape, from its backslash on. -/
def readEscape (r : Reader) : Reading Regex :=
  let r := r.bump
  match r.next? with
  | none => .error .truncatedEscape
  | some c =>
    if isDecimalDigit c then .error .backreference
    else if c == 'p' || c == 'P' then .error .unicodeClass
    else if c == 'x' then readHex 2 r
    else if c == 'u' then readHex 4 r
    else if c == 'U' then readHex 8 r
    else
      match letterClass? c with
      | some s => .ok (set s, r.bump)
      | none =>
        let r := r.bump
        if isEscapable c then .ok (charOf r.flags c, r)
        else
          match c with
          | 'a' => .ok (char '\x07', r)
          | 'f' => .ok (char '\x0c', r)
          | 't' => .ok (char '\t', r)
          | 'n' => .ok (char '\n', r)
          | 'r' => .ok (char '\r', r)
          | 'v' => .ok (char '\x0b', r)
          | 'A' => .ok (look .textStart, r)
          | 'z' => .ok (look .textEnd, r)
          | 'b' => readBoundary r
          | 'B' => .ok (look .notWordBoundary, r)
          | '<' => .ok (look .wordStart, r)
          | '>' => .ok (look .wordEnd, r)
          | _ => .error .unknownEscape

/-- Reads a unit that is neither a group, a class nor an operator. -/
def readPrimitive (r : Reader) (c : Char) : Reading Regex :=
  match c with
  | '\\' => readEscape r
  | '.' => .ok (dotOf r.flags, r.bump)
  | '^' => .ok (look (startOf r.flags), r.bump)
  | '$' => .ok (look (endOf r.flags), r.bump)
  | c => .ok (charOf r.flags c, r.bump)

/-! ### Classes -/

/-- Reads a named class such as `[:alpha:]`, if there is one. -/
def readNamedClass? (r : Reader) : Option (CharSet × Reader) :=
  match r.take? "[:" with
  | none => none
  | some r =>
    let negated := r.next? == some '^'
    let r := if negated then r.bump else r
    let name := String.ofList (r.rest.takeWhile (· != ':'))
    match Reader.take? { r with rest := r.rest.dropWhile (· != ':') } ":]" with
    | none => none
    | some r =>
      match CharSet.named.lookup name with
      | some s => some (if negated then s.complement else s, r)
      | none => none

/-- Reads one item of a class: a character or an escape. -/
def readClassItem (r : Reader) (c : Char) : Reading Regex :=
  if c == '\\' then readEscape r else .ok (char c, r.bump)

/-- The characters of an item. -/
def itemSet : Regex → Except SyntaxError CharSet
  | char c => .ok [(c.toNat, c.toNat)]
  | set s => .ok s
  | _ => .error .invalidClassItem

/-- The character of an item that bounds a range. -/
def itemChar : Regex → Except SyntaxError Char
  | char c => .ok c
  | _ => .error .invalidClassRangeItem

/-- Reads an item or a range of a class. -/
def readClassRange (r : Reader) (c : Char) : Reading CharSet :=
  match readClassItem r c with
  | .error e => .error e
  | .ok (first, r) =>
    let r := r.skip
    if r.rest.isEmpty then .error .unclosedClassAfterItem
    else if r.next? != some '-' || r.peekCounted? == some ']' || r.peekCounted? == some '-' then
      match itemSet first with
      | .ok s => .ok (s, r)
      | .error e => .error e
    else
      let r := r.advance
      match r.next? with
      | none => .error .unclosedClassAfterDash
      | some d =>
        match readClassItem r d with
        | .error e => .error e
        | .ok (last, r) =>
          match itemChar first, itemChar last with
          | .ok a, .ok b =>
            if b < a then .error .invalidClassRange else .ok ([(a.toNat, b.toNat)], r)
          | .error e, _ => .error e
          | _, .error e => .error e

/-- Reads the items of a class up to its closing bracket. -/
def readClassItems (fuel : Nat) (items : CharSet) (r : Reader) : Reading CharSet :=
  match fuel with
  | 0 => .error .unclosedClass
  | fuel + 1 =>
    let r := r.skip
    match r.next? with
    | none => .error .unclosedClass
    | some c =>
      let twice := r.rest.tail.head? == some c
      if c == '[' then
        match readNamedClass? r with
        | some (s, r) => readClassItems fuel (items ++ s) r
        | none => .error .nestedClass
      else if c == ']' then .ok (items, r.bump)
      else if c == '&' && twice then .error .classIntersection
      else if c == '-' && twice then .error .classDifference
      else if c == '~' && twice then .error .classSymmetricDifference
      else
        match readClassRange r c with
        | .error e => .error e
        | .ok (s, r) => readClassItems fuel (items ++ s) r

/-- Takes the dashes at the beginning of a class; each stands for itself. -/
def readLeadingDashes (fuel : Nat) (items : CharSet) (r : Reader) : Reading CharSet :=
  match fuel with
  | 0 => .error .unclosedClassAfterDash
  | fuel + 1 =>
    if r.next? != some '-' then .ok (items, r)
    else
      let r := r.advance
      if r.rest.isEmpty then .error .unclosedClassAfterDash
      else readLeadingDashes fuel (items ++ [(0x2d, 0x2d)]) r

/-- Reads a class from its opening bracket on. A bracket that closes nothing stands for
itself, so that no class is empty. -/
def readClass (r : Reader) : Reading Regex :=
  let fuel := r.rest.length + 1
  let r := r.advance
  if r.rest.isEmpty then .error .unclosedClass
  else
    let negated := r.next? == some '^'
    let r := if negated then r.advance else r
    if r.rest.isEmpty then .error .unclosedClassAfterNegation
    else
      match readLeadingDashes fuel [] r with
      | .error e => .error e
      | .ok (items, r) =>
        let bracket := items.isEmpty && r.next? == some ']'
        let items := if bracket then [(0x5d, 0x5d)] else items
        let r := if bracket then r.advance else r
        if r.rest.isEmpty then .error .unclosedClassAfterBracket
        else
          match readClassItems fuel items r with
          | .error e => .error e
          | .ok (items, r) =>
            let s := if r.flags.ignoreCase then CharSet.withCases items else items.normalize
            .ok (set (if negated then s.complement else s), r)

/-! ### Repetitions -/

/-- Takes the mark that makes a repetition prefer fewer rounds. What occurs does not depend on
it. -/
def skipLazyMark (r : Reader) : Reader := if r.next? == some '?' then r.bump else r

/-- Takes decimal digits. -/
def readCountDigits (fuel : Nat) (digits : List Char) (r : Reader) : List Char × Reader :=
  match fuel, r.next? with
  | fuel + 1, some c =>
    if isDecimalDigit c then readCountDigits fuel (digits ++ [c]) r.advance else (digits, r)
  | _, _ => (digits, r)

/-- Takes blanks. -/
def skipBlanks (r : Reader) : Reader := { r with rest := r.rest.dropWhile isBlank }

/-- Reads a number of rounds, with blanks around it. -/
def readCount (r : Reader) : Reading Nat :=
  let r := skipBlanks r
  let (digits, r) := readCountDigits (r.rest.length + 1) [] r
  let r := (skipBlanks r).skip
  if digits.isEmpty then .error .missingNumber
  else if digitsValue digits < 0x100000000 then .ok (digitsValue digits, r)
  else .error .invalidNumber

/-- Reads the upper bound of a counted repetition, if a comma announces one. -/
def readCountMax (min : Nat) (r : Reader) : Reading (Option Nat) :=
  if r.next? != some ',' then .ok (some min, r)
  else
    let r := r.advance
    match r.next? with
    | none => .error .unclosedCountComma
    | some '\x7d' => .ok (none, r)
    | some _ =>
      match readCount r with
      | .error e => .error e
      | .ok (max, r) => if r.rest.isEmpty then .error .unclosedCountMinMax else .ok (some max, r)

/-- Reads the bounds of a counted repetition from the opening brace on. -/
def readCounts (r : Reader) : Reading (Nat × Option Nat) :=
  let r := r.advance
  if r.rest.isEmpty then .error .unclosedCount
  else
    match readCount r with
    | .error e => .error e
    | .ok (min, r) =>
      if r.rest.isEmpty then .error .unclosedCountMin
      else
        match readCountMax min r with
        | .error e => .error e
        | .ok (max, r) =>
          if r.next? != some '\x7d' then .error .invalidCount
          else if max.any (· < min) then .error .invalidCountRange
          else .ok ((min, max), skipLazyMark r.advance)

/-! ### Groups -/

/-- The flags with one switched. -/
def Flags.switch? (flags : Flags) (on : Bool) : Char → Option Flags
  | 'i' => some { flags with ignoreCase := on }
  | 'm' => some { flags with multiLine := on }
  | 's' => some { flags with dotAll := on }
  | 'R' => some { flags with crlf := on }
  | 'x' => some { flags with verbose := on }
  | 'U' => some flags
  | _ => none

/-- Reads flags up to the colon or the parenthesis after them. -/
def readFlags (flags : Flags) (seen : List Char) (negated dangling : Bool) :
    List Char → Except SyntaxError (Flags × List Char)
  | [] => .error .unclosedFlags
  | c :: rest =>
    if c == ':' || c == ')' then
      if dangling then .error .danglingFlagNegation else .ok (flags, c :: rest)
    else if c == '-' then
      if negated then .error .repeatedFlagNegation else readFlags flags seen true true rest
    else
      match flags.switch? (!negated) c with
      | none => .error .unknownFlag
      | some flags =>
        if seen.contains c then .error .duplicateFlag
        else readFlags flags (c :: seen) negated false rest

/-- Whether a character may stand in the name of a group. -/
def isNameChar (first : Bool) (c : Char) : Bool :=
  if first then c == '_' || isAlphabetic c
  else c == '_' || c == '.' || c == '[' || c == ']' || isAlphanumeric c

/-- Reads the name of a group up to the angle bracket that closes it. -/
def readGroupName (first : Bool) : List Char → Except SyntaxError (List Char × List Char)
  | [] => .error (if first then .missingGroupName else .unclosedGroupName)
  | c :: rest =>
    if c == '>' then .ok ([], rest)
    else if !isNameChar first c then .error .invalidGroupName
    else
      match readGroupName false rest with
      | .error e => .error e
      | .ok (name, left) => .ok (c :: name, left)

/-- How a group begins. -/
inductive GroupOpening where
  /-- Flags for the rest of the surrounding group. -/
  | directive
  /-- A group that captures, with its number and perhaps a name. -/
  | capturing (number : Nat) (name? : Option String)
  /-- A group that does not capture, perhaps with flags of its own. -/
  | plain

/-- Begins a capture group, which takes the next number. -/
def openCapturing (name? : Option String) (r : Reader) : GroupOpening × Reader :=
  let number := r.groups + 1
  (.capturing number name?, { r with groups := number, names := name?.toList ++ r.names })

/-- Reads the beginning of a group, from its parenthesis on. -/
def readOpening (r : Reader) : Reading GroupOpening :=
  let r := r.advance
  if ["?=", "?!", "?<=", "?<!"].any fun word => (r.take? word).isSome then .error .lookAround
  else
    match (r.take? "?P<").or (r.take? "?<") with
    | some r =>
      match readGroupName true r.rest with
      | .error e => .error e
      | .ok (name, rest) =>
        let name := String.ofList name
        if name.isEmpty then .error .emptyGroupName
        else if r.names.contains name then .error .duplicateGroupName
        else .ok (openCapturing (some name) { r with rest })
    | none =>
      match r.take? "?" with
      | none => .ok (openCapturing none r)
      | some r =>
        if r.rest.isEmpty then .error .unclosedGroupQuestion
        else
          match readFlags r.flags [] false false r.rest with
          | .error e => .error e
          | .ok (flags, rest) =>
            if rest.head? == some ')' then
              if r.next? == some ')' then .error .emptyFlags
              else .ok (.directive, { r with rest, flags })
            else .ok (.plain, { r with rest := rest.tail, flags })

/-- How many groups may be open inside one another. -/
def maxOpenGroups : Nat := 50

/-- Reads alternatives up to the end of the pattern or the parenthesis that closes the group.
`openGroups` counts the groups that are open, `units` holds the units of the present alternative
from right to left and `branches` the alternatives before it. -/
def readBranches (fuel openGroups : Nat) (units branches : List Regex) (r : Reader) :
    Reading Regex :=
  let close (r : Reader) : Reading Regex :=
    .ok (choiceOf (branches.reverse ++ [seqOf units.reverse]), r)
  match fuel with
  | 0 => close r
  | fuel + 1 =>
    let r := r.skip
    match r.next? with
    | none => close r
    | some '(' =>
      match readOpening r with
      | .error e => .error e
      | .ok (opening, inner) =>
        match opening with
        | .directive => readBranches fuel openGroups units branches inner.bump
        | .capturing _ _ | .plain =>
          if openGroups + 1 > maxOpenGroups then .error .tooMuchNesting
          else
            match readBranches fuel (openGroups + 1) [] [] inner with
            | .error e => .error e
            | .ok (sub, after) =>
              if after.next? != some ')' then .error .unclosedGroup
              else
                let sub := match opening with
                  | .capturing number name? => group number name? sub
                  | _ => sub
                readBranches fuel openGroups (sub :: units) branches
                  { after.bump with flags := r.flags }
    | some ')' => if openGroups = 0 then .error .unopenedGroup else close r
    | some '|' => readBranches fuel openGroups [] (seqOf units.reverse :: branches) r.bump
    | some '[' =>
      match readClass r with
      | .error e => .error e
      | .ok (u, r) => readBranches fuel openGroups (u :: units) branches r
    | some '\x7b' =>
      match units with
      | [] => .error .nothingToCount
      | u :: units =>
        match readCounts r with
        | .error e => .error e
        | .ok ((min, max), r) =>
          readBranches fuel openGroups (repeatOf min max u :: units) branches r
    | some c =>
      if c == '?' || c == '*' || c == '+' then
        match units with
        | [] => .error .nothingToRepeat
        | u :: units =>
          let min := if c == '+' then 1 else 0
          let max := if c == '?' then some 1 else none
          readBranches fuel openGroups (repeatOf min max u :: units) branches (skipLazyMark r.bump)
      else
        match readPrimitive r c with
        | .error e => .error e
        | .ok (u, r) => readBranches fuel openGroups (u :: units) branches r

/-- How deep a pattern may nest. -/
def maxDepth : Nat := 50

/-- How much room the automaton of a pattern may take. -/
def maxRoom : Nat := 10 * 0x100000

/-- Reads a pattern under some flags. -/
def parse (flags : Flags) (s : String) : Except SyntaxError Regex :=
  let cs := s.toList
  match readBranches (cs.length + 1) 0 [] [] { rest := cs, flags, groups := 0, names := [] } with
  | .error e => .error e
  | .ok (r, _) =>
    if r.depth > maxDepth then .error .tooMuchNesting
    else if r.totalRoom > maxRoom then .error .tooBig
    else .ok r

end UrlRouting.Regex

import UrlRouting.Regex.Basic

/-!
# Searching

Whether a pattern matches somewhere in a text. The search runs all matches at once: a set of
places of the text is a list of marks, one before each character and one at the end, and each
pattern takes the places where its matches begin to the places where they end.
-/

namespace UrlRouting.Regex

/-- A set of places of a text of `n` characters: `n + 1` marks. -/
abbrev Marks := List Bool

/-- The characters before and after a place. -/
structure Surroundings where
  /-- The character before, unless the text begins here. -/
  before? : Option Char
  /-- The character after, unless the text ends here. -/
  after? : Option Char

/-- The surroundings of each place of a text. -/
def surroundings (before? : Option Char) : List Char → List Surroundings
  | [] => [⟨before?, none⟩]
  | c :: cs => ⟨before?, some c⟩ :: surroundings (some c) cs

/-- Whether there is a character and it belongs to a word. -/
def isWord (c? : Option Char) : Bool := c?.any CharSet.wordChars.has

/-- Whether a condition holds at a place. -/
def Look.holds (l : Look) (at_ : Surroundings) : Bool :=
  let before? := at_.before?
  let after? := at_.after?
  match l with
  | textStart => before?.isNone
  | textEnd => after?.isNone
  | lineStart => before?.isNone || before? == some '\n'
  | lineEnd => after?.isNone || after? == some '\n'
  | lineStartCrlf =>
    before?.isNone || before? == some '\n' || (before? == some '\r' && after? != some '\n')
  | lineEndCrlf =>
    after?.isNone || after? == some '\r' || (after? == some '\n' && before? != some '\r')
  | wordBoundary => isWord before? != isWord after?
  | notWordBoundary => isWord before? == isWord after?
  | wordStart => !isWord before? && isWord after?
  | wordEnd => isWord before? && !isWord after?
  | wordStartHalf => !isWord before?
  | wordEndHalf => !isWord after?

/-- The places marked in one of two sets. -/
def Marks.union (a b : Marks) : Marks := List.zipWith (· || ·) a b

/-- The places one character further, where the character passes a test. -/
def Marks.step (test : Char → Bool) (text : List Char) (marks : Marks) : Marks :=
  false :: List.zipWith (fun m c => m && test c) marks text

/-- The places reached from `marks` by at most `n` more rounds; a round that reaches no new
place is the last one. -/
def Marks.closure (round : Marks → Marks) : Nat → Marks → Marks
  | 0, marks => marks
  | n + 1, marks =>
    let next := marks.union (round marks)
    if next == marks then marks else closure round n next

/-- The places reached from `marks` by exactly `n` rounds; once a round changes nothing, no
further one does. -/
def Marks.rounds (round : Marks → Marks) : Nat → Marks → Marks
  | 0, marks => marks
  | n + 1, marks =>
    let next := round marks
    if next == marks then marks else rounds round n next

mutual

/-- The places where matches end that begin at the marked places. -/
def ends (text : List Char) : Regex → Marks → Marks
  | empty, marks => marks
  | char c, marks => marks.step (· == c) text
  | set s, marks => marks.step s.has text
  | look l, marks => List.zipWith (fun m s => m && l.holds s) marks (surroundings none text)
  | repeated min max r, marks =>
    let required := Marks.rounds (ends text r) min marks
    match max with
    | none => Marks.closure (ends text r) (text.length + 1) required
    | some max => Marks.closure (ends text r) (max - min) required
  | group _ _ r, marks => ends text r marks
  | sequence rs, marks => endsInTurn text rs marks
  | choice rs, marks => endsOfAny text rs marks

/-- The places where matches of all patterns in turn end. -/
def endsInTurn (text : List Char) : List Regex → Marks → Marks
  | [], marks => marks
  | r :: rs, marks => endsInTurn text rs (ends text r marks)

/-- The places where matches of one of the patterns end. -/
def endsOfAny (text : List Char) : List Regex → Marks → Marks
  | [], marks => marks.map fun _ => false
  | r :: rs, marks => (ends text r marks).union (endsOfAny text rs marks)

end

/-- Whether the pattern matches somewhere in a text. -/
def occursIn (r : Regex) (s : String) : Bool :=
  let text := s.toList
  (ends text r (List.replicate (text.length + 1) true)).any id

end UrlRouting.Regex

import UrlRouting.Telemetry.Event
import UrlRouting.Text.Alphabet
import UrlRouting.Text.Blank
import UrlRouting.Text.Numeral
import UrlRouting.Text.Splitting

/-!
# Log filters

A `LogFilter` decides which events a log shows. It is a list of directives, written with commas
between them: a level, or the beginning of the name of a part of the program, perhaps with a level
after an equals sign. In square brackets in front of the level may stand the name of a span of the
program and, in braces, the name of a field and perhaps its value.

The most specific directive that concerns an event says up to which level it is shown. There are no
spans here, so that a directive that names one concerns no event, and neither does one that asks for
the value of a field.
-/

namespace UrlRouting

open Text

/-! ### Directives -/

/-- A directive of a filter. -/
structure LogDirective where
  /-- What the names of the parts of the program begin with that it concerns. -/
  source? : Option String := none
  /-- The name of a span. -/
  span? : Option String := none
  /-- The name of a field, and whether it is to have a certain value. -/
  field? : Option (String × Bool) := none
  /-- Events up to this verbosity are shown; zero shows none. -/
  verbosity : Nat := Level.trace.verbosity
deriving Repr, DecidableEq

/-- Why a text is no directive. -/
inductive LogDirectiveError where
  /-- It is not written like one. -/
  | malformed
  /-- What stands in place of a level is none. -/
  | unknownLevel
deriving Repr, DecidableEq

/-- The wording of an error. -/
def LogDirectiveError.message : LogDirectiveError → String
  | malformed => "invalid filter directive"
  | unknownLevel =>
    "error parsing level filter: expected one of \"off\", \"error\", \"warn\", \"info\", \"debug\", "
      ++ "\"trace\", or a number 0-5"

/-- The verbosity that a level names: a word in any case of ASCII or a number. -/
def readVerbosity? (s : String) : Option Nat :=
  ((readLength? s).filter fun n => decide (n ≤ Level.trace.verbosity)).or
    ([("off", 0), ("error", 1), ("warn", 2), ("info", 3), ("debug", 4), ("trace", 5)].lookup
      (String.ofList (s.toList.map Char.toLower)))

/-- A text that is being read as a directive. Where its parts begin and end is found without regard
to the blanks in front of it, but the parts themselves are taken with them: each blank there moves
all parts by one character to the left. -/
structure DirectiveText where
  /-- The characters, blanks included. -/
  characters : List Char

namespace DirectiveText

/-- The part of the text from `start` up to `stop`. -/
def part (t : DirectiveText) (start stop : Nat) : String :=
  String.ofList ((t.characters.take stop).drop start)

/-- The part of the text from `start` on. -/
def partFrom (t : DirectiveText) (start : Nat) : String := String.ofList (t.characters.drop start)

/-- Reads the level from `start` on. Nothing stands for the greatest level. -/
def readLevel (t : DirectiveText) (start : Nat) (d : LogDirective) :
    Except LogDirectiveError LogDirective :=
  let word := t.partFrom start
  if word.isEmpty then .ok d
  else
    match readVerbosity? word with
    | some verbosity => .ok { d with verbosity }
    | none => .error .unknownLevel

/-- Reads what follows the closing bracket: nothing, or a level after an equals sign. -/
def readAfterBracket (t : DirectiveText) (d : LogDirective) (start : Nat) :
    List Char → Except LogDirectiveError LogDirective
  | [] => .ok d
  | '=' :: _ => t.readLevel (start + 1) d
  | _ => .error .malformed

/-- A field as it is written between braces: a name, and a value after an equals sign. -/
def fieldOf (s : String) : String × Bool :=
  (String.ofList (s.toList.takeWhile (· != '=')), s.toList.contains '=')

/-- Reads a field after its opening brace, and what follows it. -/
def readField (t : DirectiveText) (d : LogDirective) (start : Nat) (cs : List Char) :
    Except LogDirectiveError LogDirective :=
  let stop := start + (cs.takeWhile (· != '\x7d')).length
  match cs.dropWhile (· != '\x7d') with
  | _ :: ']' :: rest =>
    let field := t.part start stop
    if field.isEmpty then .error .malformed
    else t.readAfterBracket { d with field? := some (fieldOf field) } (stop + 2) rest
  | _ => .error .malformed

/-- Reads a span after its opening bracket, and what follows it. -/
def readSpan (t : DirectiveText) (d : LogDirective) (start : Nat) (cs : List Char) :
    Except LogDirectiveError LogDirective :=
  let inName (c : Char) : Bool := c != ']' && c != '\x7b'
  let stop := start + (cs.takeWhile inName).length
  let span := t.part start stop
  match cs.dropWhile inName with
  | ']' :: rest => t.readAfterBracket { d with span? := some span } (stop + 1) rest
  | '\x7b' :: rest =>
    t.readField { d with span? := if span.isEmpty then none else some span } (stop + 1) rest
  | _ => .error .malformed

/-- Reads a directive that begins with a level or with the name of a part of the program. -/
def readSource (t : DirectiveText) (cs : List Char) : Except LogDirectiveError LogDirective :=
  let inName (c : Char) : Bool := c != '=' && c != '['
  let stop := (cs.takeWhile inName).length
  let d : LogDirective := { source? := some (t.part 0 stop) }
  match cs.dropWhile inName with
  | '=' :: _ => t.readLevel (stop + 1) d
  | _ :: rest => t.readSpan d (stop + 1) rest
  | [] =>
    let whole := t.partFrom 0
    match readVerbosity? whole with
    | some verbosity => .ok { verbosity }
    | none => .ok { source? := some whole }

end DirectiveText

namespace LogDirective

/-- Whether a directive may begin with a character. -/
def isFirstChar (c : Char) : Bool := isAlphanumeric c || c == '-' || c == ':' || c == '_'

/-- Reads a directive. -/
def parse (s : String) : Except LogDirectiveError LogDirective :=
  let t : DirectiveText := ⟨s.toList⟩
  match trimBoth isBlank s.toList with
  | [] => .error .malformed
  | '[' :: rest => t.readSpan {} 1 rest
  | c :: rest => if isFirstChar c then t.readSource (c :: rest) else .error .malformed

/-- Whether a directive can concern events outside all spans. -/
def isSpanless (d : LogDirective) : Bool := d.span?.isNone && !d.field?.any (·.2)

/-- Whether a directive concerns an event. -/
def concerns (d : LogDirective) (e : Event) : Bool :=
  d.isSpanless && d.source?.all (fun source => source.toList.isPrefixOf e.source.toList)
    && d.field?.all fun field => (e.fieldNames).contains field.1

/-- What orders the directives that concern one event by how specific they are: how much of the name
of its part they give, and which field they ask for. -/
def rank (d : LogDirective) : Nat × Option String :=
  (d.source?.elim 0 fun source => source.length, d.field?.map Prod.fst)

/-- Whether a directive is at least as specific as another one that concerns the same event. -/
def isAsSpecific (d other : LogDirective) : Bool :=
  match compare d.rank.1 other.rank.1, d.rank.2, other.rank.2 with
  | .gt, _, _ => true
  | .lt, _, _ => false
  | .eq, some a, some b => b ≤ a
  | .eq, none, some _ => false
  | .eq, _, none => true

end LogDirective

/-! ### Filters -/

/-- The directives of a filter in the order in which they are written. -/
abbrev LogFilter := List LogDirective

namespace LogFilter

/-- The directives that a text separates by commas, unread. -/
def pieces (s : String) : List String :=
  ((splitAt (· == ',') s.toList).filter (!·.isEmpty)).map String.ofList

/-- A filter without directives shows errors only. -/
def orErrors (f : LogFilter) : LogFilter :=
  if f.isEmpty then [{ verbosity := Level.error.verbosity }] else f

/-- Reads a filter all of whose directives are sound. -/
def parse? (s : String) : Option LogFilter :=
  ((pieces s).mapM fun piece => (LogDirective.parse piece).toOption).map orErrors

/-- Reads the sound directives of a filter. -/
def parseSound (s : String) : LogFilter :=
  orErrors ((pieces s).filterMap fun piece => (LogDirective.parse piece).toOption)

/-- The pieces of a filter that are no directives, each with the reason. -/
def unsound (s : String) : List (String × LogDirectiveError) :=
  (pieces s).filterMap fun piece =>
    match LogDirective.parse piece with
    | .ok _ => none
    | .error e => some (piece, e)

/-- The directive that counts for an event: the most specific one, and of several that are equally
specific the last one. -/
def directive? (f : LogFilter) (e : Event) : Option LogDirective :=
  (f.filter (·.concerns e)).foldl
    (fun best? d => if best?.all d.isAsSpecific then some d else best?) none

/-- Whether an event is shown. -/
def shows (f : LogFilter) (e : Event) : Bool :=
  (f.directive? e).any fun d => e.level.verbosity ≤ d.verbosity

end LogFilter

end UrlRouting

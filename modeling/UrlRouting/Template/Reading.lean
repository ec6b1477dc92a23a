import UrlRouting.Template.Basic
import UrlRouting.Template.Error
import UrlRouting.Template.Lexeme
import UrlRouting.Text.Blank

/-!
# Reading templates

`Template.parse` reads a template from its text. A `~` in front and slashes at both ends do
not count; what is left is scanned into lexemes, cut into segments, and each segment is read
part by part. The first segment that cannot be read decides the error; rules that relate
several segments are checked last.
-/

namespace UrlRouting

open Text

/-! ### Parameters -/

/-- Characters that a parameter name may not hold. -/
def nameDelimiters : List Char := ['/', '\x7b', '\x7d', '?', '*', '=', ':']

/-- Cuts an inline constraint off: it ends before the first `:` or `=` that stands outside of
parentheses. `depth` counts the parentheses that are open. -/
def cutConstraint (depth : Nat) : List Char → List Char × List Char
  | [] => ([], [])
  | c :: rest =>
    if (c = ':' ∨ c = '=') ∧ depth = 0 then ([], c :: rest)
    else
      let depth' := if c = '(' then depth + 1 else if c = ')' then depth - 1 else depth
      let (text, left) := cutConstraint depth' rest
      (c :: text, left)

theorem length_cutConstraint_le (depth : Nat) (cs : List Char) :
    (cutConstraint depth cs).2.length ≤ cs.length := by
  induction cs generalizing depth with
  | nil => simp [cutConstraint]
  | cons c rest ih =>
    simp only [cutConstraint]
    split
    · simp
    · exact Nat.le_succ_of_le (ih _)

/-- The inline constraints and the default that follow a parameter name. -/
def readTail : List Char → List InlineConstraint × Option String
  | ':' :: rest =>
    have := length_cutConstraint_le 0 rest
    let (constraints, default?) := readTail (cutConstraint 0 rest).2
    let text := (cutConstraint 0 rest).1
    (if text.isEmpty then constraints else ⟨String.ofList text⟩ :: constraints, default?)
  | '=' :: value => ([], some (String.ofList value))
  | _ => ([], none)
termination_by cs => cs.length
decreasing_by simp only [List.length_cons]; omega

/-- Reads the inside of a pair of braces; `raw` is the text of the segment. -/
def readParameter (raw : String) (body : List Char) : Except TemplateError Parameter :=
  let isCatchAll := body.head? == some '*'
  let body := if isCatchAll then body.tail else body
  let isOptional := body.getLast? == some '?'
  let body := if isOptional then body.dropLast else body
  let name := String.ofList (body.takeWhile fun c => c != ':' && c != '=')
  let tail := readTail (body.dropWhile fun c => c != ':' && c != '=')
  if name.isEmpty then .error (.emptyParameterName raw)
  else if name.toList.any nameDelimiters.contains then .error (.invalidParameterName name)
  else if isCatchAll && isOptional then .error (.optionalCatchAll name)
  else if isOptional && tail.2.isSome then .error (.optionalWithDefault name)
  else .ok
    { name, isCatchAll, isOptional, default? := tail.2, constraints := tail.1 }

/-! ### Segments -/

/-- Cuts the inside of a parameter off, up to its closing brace. A doubled brace stands for
itself; none where the parameter is not closed or another one is opened in it. -/
def cutBody : List Lexeme → Option (List Char × List Lexeme)
  | [] => none
  | .single .right :: rest => some ([], rest)
  | .single .left :: _ => none
  | .doubled b :: rest => (cutBody rest).map fun (body, left) => (b.char :: body, left)
  | .plain c :: rest => (cutBody rest).map fun (body, left) => (c :: body, left)

theorem length_cutBody_lt {ls left : List Lexeme} {body : List Char}
    (h : cutBody ls = some (body, left)) : left.length < ls.length := by
  induction ls generalizing body left with
  | nil => cases h
  | cons l rest ih =>
    cases l with
    | single b =>
      cases b with
      | left => cases h
      | right => cases h; simp
    | doubled b =>
      obtain ⟨⟨body', left'⟩, h', e⟩ := Option.map_eq_some_iff.1 h
      cases e
      exact Nat.lt_succ_of_lt (ih h')
    | plain c =>
      obtain ⟨⟨body', left'⟩, h', e⟩ := Option.map_eq_some_iff.1 h
      cases e
      exact Nat.lt_succ_of_lt (ih h')

/-- Puts a literal in front of some parts, unless it is empty. -/
def consLiteral (text : List Char) (parts : List Part) : List Part :=
  if text.isEmpty then parts else .literal (String.ofList text) :: parts

/-- Reads the parts of a segment; `literal` is the literal text read so far. -/
def readParts (raw : String) (literal : List Char) :
    List Lexeme → Except TemplateError (List Part)
  | [] => .ok (consLiteral literal [])
  | .plain c :: rest => readParts raw (literal ++ [c]) rest
  | .doubled b :: rest => readParts raw (literal ++ [b.char]) rest
  | .single .right :: _ => .error (.unbalancedBrace raw)
  | .single .left :: rest =>
    match h : cutBody rest with
    | none => .error (.unbalancedBrace raw)
    | some (body, left) =>
      have := length_cutBody_lt h
      match readParameter raw body with
      | .error e => .error e
      | .ok p =>
        match readParts raw [] left with
        | .error e => .error e
        | .ok parts => .ok (consLiteral literal (.parameter p :: parts))
termination_by ls => ls.length

/-- Whether two parameters stand side by side. -/
def hasAdjacentParameters : List Part → Bool
  | .parameter _ :: .parameter _ :: _ => true
  | _ :: rest => hasAdjacentParameters rest
  | [] => false

/-- What a parameter that shares its segment does wrong. -/
def sharingError? (p : Parameter) : Option TemplateError :=
  if p.isCatchAll then some (.catchAllInComplexSegment p.name)
  else if p.isOptional then some (.optionalInComplexSegment p.name)
  else none

/-- The first fault of a segment of several parts. -/
def complexError? (raw : String) (parts : List Part) : Option TemplateError :=
  if parts.length ≤ 1 then none
  else
    match (Segment.parameters parts).findSome? sharingError? with
    | some e => some e
    | none => if hasAdjacentParameters parts then some (.adjacentParameters raw) else none

/-- Reads a segment. -/
def readSegment (ls : List Lexeme) : Except TemplateError Segment :=
  let raw := String.ofList (Lexeme.spell ls)
  if ls.isEmpty then .error .emptySegment
  else
    match readParts raw [] ls with
    | .error e => .error e
    | .ok parts =>
      match complexError? raw parts with
      | some e => .error e
      | none => .ok parts

/-- Reads segments up to the first one that cannot be read. -/
def readSegments : List (List Lexeme) → Except TemplateError (List Segment)
  | [] => .ok []
  | ls :: rest =>
    match readSegment ls with
    | .error e => .error e
    | .ok segment =>
      match readSegments rest with
      | .error e => .error e
      | .ok segments => .ok (segment :: segments)

/-! ### Templates -/

/-- What the parameters of a segment do wrong in view of the names `seen` before them;
`isLast` says whether the segment is the last one. -/
def parametersError? (isLast : Bool) (seen : List String) :
    List Parameter → Option TemplateError
  | [] => none
  | p :: rest =>
    if seen.contains (fold p.name) then some (.duplicateParameter p.name)
    else if p.isCatchAll && !isLast then some (.catchAllNotLast p.name)
    else parametersError? isLast (fold p.name :: seen) rest

/-- The first fault that shows only in view of all segments. -/
def segmentsError? (seen : List String) : List Segment → Option TemplateError
  | [] => none
  | s :: rest =>
    match parametersError? rest.isEmpty seen (Segment.parameters s) with
    | some e => some e
    | none => segmentsError? ((Segment.parameters s).map (fold ·.name) ++ seen) rest

/-- A text without one `~` in front and then without slashes at both ends. -/
def trimTemplate (cs : List Char) : List Char :=
  trimBoth (· == '/') (if cs.head? = some '~' then cs.tail else cs)

namespace Template

/-- Reads a template. -/
def parse (text : String) : Except TemplateError Template :=
  let cs := trimTemplate text.toList
  if cs.isEmpty then .ok { text := "", segments := [] }
  else
    match readSegments (Lexeme.splitSegments false (Lexeme.scan cs)) with
    | .error e => .error e
    | .ok segments =>
      match segmentsError? [] segments with
      | some e => .error e
      | none => .ok { text := String.ofList cs, segments }

end Template

end UrlRouting

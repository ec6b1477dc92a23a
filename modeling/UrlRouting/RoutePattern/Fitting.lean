import UrlRouting.RoutePattern.Basic
import UrlRouting.UrlPath

/-!
# Fitting a path to a pattern

`RoutePattern.fit?` reads the values of a pattern off a path. A segment that mixes literals
and parameters is fitted from the right: each literal takes the rightmost place that leaves
something for the parameter after it, and a parameter takes what stands between its
neighbours.
-/

namespace UrlRouting

open Text

/-! ### Segments of several parts -/

/-- The length of the shortest beginning of `text` that is the literal up to case. -/
def leadingLength? (literal : String) (text : List Char) : Option Nat :=
  ((List.range text.length).map (· + 1)).find? fun n =>
    sameText (String.ofList (text.take n)) literal

/-- What stands before the rightmost ending of `text` that is the literal up to case. -/
def beforeEnding? (literal : String) (text : List Char) : Option (List Char) :=
  ((List.range text.length).reverse.find? fun start =>
    sameText (String.ofList (text.drop start)) literal).map text.take

/-- What stands before and after the rightmost place of the literal that has something after
it. -/
def aroundLast? (literal : String) (text : List Char) : Option (List Char × List Char) :=
  (List.range text.length).reverse.findSome? fun start =>
    match leadingLength? literal (text.drop start) with
    | some n =>
      if start + n < text.length then some (text.take start, text.drop (start + n)) else none
    | none => none

/-- Fits parts, given from right to left, to a text. `open?` is the parameter right of these
parts that still takes what the next literal leaves. The values come from right to left. -/
def fitFromRight (open? : Option Parameter) (text : List Char) :
    List Part → Option (List (Parameter × List Char))
  | [] =>
    match open? with
    | some p => if text.isEmpty then none else some [(p, text)]
    | none => if text.isEmpty then some [] else none
  | .parameter p :: parts => fitFromRight (some p) text parts
  | .literal literal :: parts =>
    match open? with
    | some p =>
      match aroundLast? literal text with
      | some (before, after) => (fitFromRight none before parts).map ((p, after) :: ·)
      | none => none
    | none =>
      match beforeEnding? literal text with
      | some before => fitFromRight none before parts
      | none => none

/-- Fits the parts of a segment to one piece of a path. -/
def fitParts (parts : List Part) (piece : String) : Option (List (Parameter × List Char)) :=
  fitFromRight none piece.toList parts.reverse

/-- Binds what was fitted. -/
def bindFitted (vs : Bindings) (fitted : List (Parameter × List Char)) : Bindings :=
  fitted.foldl (fun vs (p, text) => vs.bind p.name (String.ofList text)) vs

/-! ### Whole paths -/

namespace RoutePattern

/-- Fits segments to pieces, one by one. A catch-all takes all pieces that are left; where no
piece is left, a segment has to be able to go without one. -/
def fitSegments (r : RoutePattern) (vs : Bindings) : List Segment → List String → Option Bindings
  | [], _ => some vs
  | s :: segments, [] =>
    if r.bindsWithoutPiece s then r.fitSegments vs segments [] else none
  | [.literal text] :: segments, piece :: pieces =>
    if sameText text piece then r.fitSegments vs segments pieces else none
  | [.parameter p] :: segments, piece :: pieces =>
    if p.isCatchAll then some (vs.bind p.name ("/".intercalate (piece :: pieces)))
    else r.fitSegments (vs.bind p.name piece) segments pieces
  | parts :: segments, piece :: pieces =>
    match fitParts parts piece with
    | some fitted => r.fitSegments (bindFitted vs fitted) segments pieces
    | none => none

/-- Whether the last segment is a catch-all. -/
def endsInCatchAll (r : RoutePattern) : Bool :=
  match r.template.segments.getLast? with
  | some s => (Segment.soleParameter? s).any (·.isCatchAll)
  | none => false

/-- The values that a path gives to the pattern, with the defaults of all names that it gives
none; none where the path does not fit. -/
def fit? (r : RoutePattern) (path : UrlPath) : Option Bindings :=
  if path.pieces.length > r.template.segments.length && !r.endsInCatchAll then none
  else (r.fitSegments .empty r.template.segments path.pieces).map (·.withDefaults r.defaults)

end RoutePattern

end UrlRouting

import UrlRouting.RoutePattern.Basic
import UrlRouting.UrlPath

/-!
# Filling a pattern

Writing a link takes two steps. `RoutePattern.select?` chooses the values to write: those
asked for, those of the current request as long as nothing before them changes, and the
defaults. `RoutePattern.write?` writes chosen values into the template and appends what the
template has no place for as a query.
-/

namespace UrlRouting

open Text

/-- The values chosen for a link. -/
structure Selection where
  /-- The values to be written. -/
  accepted : Bindings
  /-- The values to be written with the defaults of the names that have none: what constraints
  look at. -/
  combined : Bindings

namespace RoutePattern

/-! ### Choosing values -/

/-- Whether the current value of a name is the one asked for. -/
def keepsAmbient (ambient? : Option String) (asked : String) : Bool :=
  match ambient? with
  | some current => sameText current asked
  | none => false

/-- Chooses the values of parameters in order. A value asked for is taken; a current one only
while `usable`, that is, as long as each parameter before it keeps its value or is not
asked for. Asking for the empty text clears a value. -/
def acceptParameters (ambient asked : Bindings) (usable : Bool) (accepted : Bindings) :
    List Parameter → Bindings
  | [] => accepted
  | p :: rest =>
    match asked.nonEmpty? p.name with
    | some value =>
      acceptParameters ambient asked (usable && keepsAmbient (ambient.nonEmpty? p.name) value)
        (accepted.bind p.name value) rest
    | none =>
      if asked.has p.name then acceptParameters ambient asked false accepted rest
      else
        match ambient.nonEmpty? p.name with
        | some current =>
          acceptParameters ambient asked usable
            (if usable then accepted.bind p.name current else accepted) rest
        | none => acceptParameters ambient asked usable accepted rest

/-- Chooses the values asked for that have no parameter. One that is also a default has to
agree with it and is not written. -/
def acceptOthers (r : RoutePattern) (accepted : Bindings) : List Binding → Option Bindings
  | [] => some accepted
  | b :: rest =>
    if b.value.isEmpty || (r.template.parameter? b.name).isSome then r.acceptOthers accepted rest
    else
      match r.defaults.get? b.name with
      | some given => if sameText given b.value then r.acceptOthers accepted rest else none
      | none => r.acceptOthers (accepted.bind b.name b.value) rest

/-- Whether a parameter is provided for: it has a chosen value or a default or needs none. -/
def isProvided (r : RoutePattern) (accepted : Bindings) (p : Parameter) : Bool :=
  accepted.has p.name || r.defaults.has p.name || p.isOptional || p.isCatchAll

/-- Chooses the values of a link from those of the current request and those asked for. -/
def select? (r : RoutePattern) (ambient asked : Bindings) : Option Selection :=
  match r.acceptOthers (acceptParameters ambient asked true .empty r.template.parameters)
      asked.items with
  | none => none
  | some accepted =>
    if r.template.parameters.all (r.isProvided accepted) then
      some { accepted, combined := accepted.withDefaults r.defaults }
    else none

/-! ### Writing values -/

/-- A segment as it is written. -/
structure WrittenSegment where
  /-- The percent-encoded text. -/
  text : String
  /-- Whether the segment may be left out at the end of a path. -/
  elidable : Bool

/-- The value of a parameter: the chosen one, else the default. -/
def valueOf? (r : RoutePattern) (accepted : Bindings) (name : String) : Option String :=
  (accepted.nonEmpty? name).or (r.defaults.nonEmpty? name)

/-- A value of a catch-all, encoded piece by piece. -/
def encodePieces (value : String) : String :=
  "/".intercalate ((splitAt (· == '/') value.toList).map fun piece =>
    percentEncode .segment (String.ofList piece))

/-- Writes a part of a segment of several parts. -/
def writePart? (r : RoutePattern) (accepted : Bindings) : Part → Option String
  | .literal text => some (percentEncode .segment text)
  | .parameter p => (r.valueOf? accepted p.name).map (percentEncode .segment)

/-- Writes parts side by side. -/
def writeParts? (r : RoutePattern) (accepted : Bindings) : List Part → Option String
  | [] => some ""
  | part :: parts =>
    match r.writePart? accepted part, r.writeParts? accepted parts with
    | some text, some rest => some (text ++ rest)
    | _, _ => none

/-- Writes a segment. A parameter on its own may be left out if it has no value and needs
none, or if its value is the default up to case. -/
def writeSegment? (r : RoutePattern) (accepted : Bindings) (s : Segment) :
    Option WrittenSegment :=
  match Segment.soleParameter? s with
  | some p =>
    match r.valueOf? accepted p.name with
    | some value =>
      some
        { text := if p.isCatchAll then encodePieces value else percentEncode .segment value
          elidable := (r.defaults.get? p.name).any fun given => sameText given value }
    | none => if p.isOptional || p.isCatchAll then some { text := "", elidable := true } else none
  | none => (r.writeParts? accepted s).map fun text => { text, elidable := false }

/-- Writes segments in order. -/
def writeSegments? (r : RoutePattern) (accepted : Bindings) :
    List Segment → Option (List WrittenSegment)
  | [] => some []
  | s :: rest =>
    match r.writeSegment? accepted s, r.writeSegments? accepted rest with
    | some written, some others => some (written :: others)
    | _, _ => none

/-- Segments without those at the end that may be left out. -/
def dropElidable (segments : List WrittenSegment) : List WrittenSegment :=
  (segments.reverse.dropWhile (·.elidable)).reverse

/-- Whether a chosen value goes into the query: it is not empty, has no parameter and is not
the default. -/
def isExtra (r : RoutePattern) (b : Binding) : Bool :=
  !b.value.isEmpty && !r.template.parameters.any (fun p => fold p.name == fold b.name)
    && (r.defaults.get? b.name).all fun given => !sameText given b.value

/-- A key and a value of a query. -/
def writeQueryPair (b : Binding) : String :=
  percentEncode .query b.name ++ "=" ++ percentEncode .query b.value

/-- Writes chosen values as a URL. None where a segment has no value, or where one that is
left without text stands before another that is written. -/
def write? (r : RoutePattern) (accepted : Bindings) : Option String :=
  match r.writeSegments? accepted r.template.segments with
  | none => none
  | some segments =>
    let texts := (dropElidable segments).map (·.text)
    if texts.any (·.isEmpty) then none
    else
      let query := (accepted.items.filter r.isExtra).map writeQueryPair
      some ("/" ++ "/".intercalate texts
        ++ (if query.isEmpty then "" else "?" ++ "&".intercalate query))

end RoutePattern

end UrlRouting

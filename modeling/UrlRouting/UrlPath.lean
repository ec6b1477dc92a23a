import UrlRouting.Text.Percent
import UrlRouting.Text.Splitting

/-!
# Request paths

A path is read as the list of its pieces: the non-empty texts between slashes, with their
percent-escapes undone. `normalizePath` gives paths with the same pieces one spelling.
-/

namespace UrlRouting

open Text

/-- Drops every slash that follows a slash; `afterSlash` says whether one stands before. -/
def collapseSlashes (afterSlash : Bool) : List Char → List Char
  | [] => []
  | '/' :: rest =>
    if afterSlash then collapseSlashes true rest else '/' :: collapseSlashes true rest
  | c :: rest => c :: collapseSlashes false rest

/-- A slash in front, single slashes between the pieces, and no slash at the end unless it is
the only character. -/
def normalizePath (path : String) : String :=
  let cs := path.toList
  let collapsed :=
    if cs.head? = some '/' then collapseSlashes false cs else '/' :: collapseSlashes true cs
  String.ofList
    (if collapsed.length > 1 && collapsed.getLast? == some '/' then collapsed.dropLast
     else collapsed)

/-- The pieces of a path. -/
structure UrlPath where
  /-- The percent-decoded pieces in order. -/
  pieces : List String
deriving Repr, DecidableEq

namespace UrlPath

/-- Reads a path. -/
def ofString (path : String) : UrlPath where
  pieces :=
    ((splitAt (· == '/') (normalizePath path).toList).filter (!·.isEmpty)).map fun piece =>
      percentDecode (String.ofList piece)

/-- The pieces from position `i` on, joined by slashes. -/
def remainder (p : UrlPath) (i : Nat) : String := "/".intercalate (p.pieces.drop i)

end UrlPath

end UrlRouting

/-!
# Splitting texts

A text falls into parts at its separators, and into lines at its line feeds.
-/

namespace UrlRouting.Text

/-- The parts of a list between the elements that satisfy `p`; there is one more part than
such elements. -/
def splitAt {α : Type} (p : α → Bool) : List α → List (List α)
  | [] => [[]]
  | a :: rest =>
    if p a then [] :: splitAt p rest
    else
      match splitAt p rest with
      | part :: parts => (a :: part) :: parts
      | [] => [[a]]

/-- A line without the carriage return that stands before its line feed. -/
def withoutReturn (line : List Char) : List Char :=
  if line.getLast? == some '\r' then line.dropLast else line

/-- The lines among the parts between line feeds. Nothing behind the last line feed is no line, and
a carriage return that no line feed follows belongs to its line. -/
def linesOfParts : List (List Char) → List (List Char)
  | [] => []
  | [last] => if last.isEmpty then [] else [last]
  | part :: parts => withoutReturn part :: linesOfParts parts

/-- The lines of a text, without what ends them. -/
def lines (s : String) : List String :=
  (linesOfParts (splitAt (· == '\n') s.toList)).map String.ofList

end UrlRouting.Text

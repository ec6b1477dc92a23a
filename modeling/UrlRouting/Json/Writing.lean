import UrlRouting.Json.Basic
import UrlRouting.Text.Quoted

/-!
# Writing JSON

`Json.compress` writes a value on one line without blanks, `Json.pretty` over several lines
with an indentation of two.
-/

namespace UrlRouting

open Text

namespace JsonNumber

/-- The digits of a number, with an exponent where the number is not written as a whole one. -/
def render (n : JsonNumber) : String :=
  (if n.negative then "-" else "") ++ String.ofList (Nat.toDigits 10 n.mantissa)
    ++ (if n.isWhole then ""
        else "e" ++ (if n.exponent < 0 then "-" else "")
          ++ String.ofList (Nat.toDigits 10 n.exponent.natAbs))

end JsonNumber

namespace Json

mutual

/-- The value on one line. -/
def compress : Json → String
  | null => "null"
  | bool true => "true"
  | bool false => "false"
  | number n => n.render
  | text s => EscapeStyle.json.quote s
  | array values => "[" ++ ",".intercalate (compressAll values) ++ "]"
  | object members => "\x7b" ++ ",".intercalate (compressMembers members) ++ "\x7d"

/-- Each value on one line. -/
def compressAll : List Json → List String
  | [] => []
  | v :: vs => v.compress :: compressAll vs

/-- Each member on one line. -/
def compressMembers : List (String × Json) → List String
  | [] => []
  | (name, v) :: ms => (EscapeStyle.json.quote name ++ ":" ++ v.compress) :: compressMembers ms

end

/-- The blanks in front of a line at some depth. -/
def indentation (depth : Nat) : String := String.ofList (List.replicate (2 * depth) ' ')

/-- Items one a line between two brackets; no line break where there are none. -/
def prettyItems (opening closing : String) (depth : Nat) (items : List String) : String :=
  if items.isEmpty then opening ++ closing
  else
    opening ++ "\n" ++ ",\n".intercalate (items.map (indentation (depth + 1) ++ ·)) ++ "\n"
      ++ indentation depth ++ closing

mutual

/-- The value over several lines, at some depth. -/
def prettyAt (depth : Nat) : Json → String
  | array values => prettyItems "[" "]" depth (prettyAll (depth + 1) values)
  | object members => prettyItems "\x7b" "\x7d" depth (prettyMembers (depth + 1) members)
  | null => "null"
  | bool true => "true"
  | bool false => "false"
  | number n => n.render
  | text s => EscapeStyle.json.quote s

/-- Each value over several lines. -/
def prettyAll (depth : Nat) : List Json → List String
  | [] => []
  | v :: vs => v.prettyAt depth :: prettyAll depth vs

/-- Each member over several lines. -/
def prettyMembers (depth : Nat) : List (String × Json) → List String
  | [] => []
  | (name, v) :: ms =>
    (EscapeStyle.json.quote name ++ ": " ++ v.prettyAt depth) :: prettyMembers depth ms

end

/-- The value over several lines. -/
def pretty (v : Json) : String := v.prettyAt 0

end Json

end UrlRouting

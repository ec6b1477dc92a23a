import UrlRouting.Json.Basic
import UrlRouting.Text.Numeral

/-!
# Reading JSON

`Json.parse?` reads a document strictly: no comments, no trailing commas, nothing but blanks
around the value, no control character inside a string, and every escaped surrogate with its
partner.
-/

namespace UrlRouting

open Text

namespace Json

/-- The blanks that may stand between the units of a document. -/
def isSpace (c : Char) : Bool := c == ' ' || c == '\t' || c == '\n' || c == '\r'

/-- A text without the blanks in front. -/
def skipSpace (cs : List Char) : List Char := cs.dropWhile isSpace

/-! ### Strings -/

/-- The number that four hexadecimal digits stand for. -/
def hexUnit? (a b c d : Char) : Option Nat :=
  match hexDigitValue? a, hexDigitValue? b, hexDigitValue? c, hexDigitValue? d with
  | some a, some b, some c, some d => some (((a * 16 + b) * 16 + c) * 16 + d)
  | _, _, _, _ => none

/-- The character of a short escape. -/
def shortEscape? (c : Char) : Option Char :=
  [('"', '"'), ('\\', '\\'), ('/', '/'), ('b', '\x08'), ('f', '\x0c'), ('n', '\n'), ('r', '\r'),
    ('t', '\t')].lookup c

/-- Reads the inside of a string up to its closing quote, as code points and surrogates. -/
def readUnits : List Char → Option (List Nat × List Char)
  | [] => none
  | '"' :: rest => some ([], rest)
  | '\\' :: 'u' :: a :: b :: c :: d :: rest =>
    match hexUnit? a b c d, readUnits rest with
    | some unit, some (units, left) => some (unit :: units, left)
    | _, _ => none
  | '\\' :: c :: rest =>
    match shortEscape? c, readUnits rest with
    | some c, some (units, left) => some (c.toNat :: units, left)
    | _, _ => none
  | c :: rest =>
    if c.toNat < 0x20 || c == '\\' then none
    else (readUnits rest).map fun (units, left) => (c.toNat :: units, left)

/-- Joins each high surrogate with the low one after it; none where one stands alone. -/
def joinSurrogates : List Nat → Option (List Char)
  | [] => some []
  | u :: rest =>
    if 0xd800 ≤ u && u < 0xdc00 then
      match rest with
      | v :: rest' =>
        if 0xdc00 ≤ v && v < 0xe000 then
          (joinSurrogates rest').map
            (Char.ofNat (0x10000 + (u - 0xd800) * 0x400 + (v - 0xdc00)) :: ·)
        else none
      | [] => none
    else if 0xdc00 ≤ u && u < 0xe000 then none
    else (joinSurrogates rest).map (Char.ofNat u :: ·)

/-- Reads a string after its opening quote. -/
def readString (cs : List Char) : Option (String × List Char) :=
  match readUnits cs with
  | some (units, left) => (joinSurrogates units).map fun text => (String.ofList text, left)
  | none => none

/-! ### Numbers -/

/-- The digits in front, and what follows them. -/
def spanDigits (cs : List Char) : List Char × List Char :=
  (cs.takeWhile isDecimalDigit, cs.dropWhile isDecimalDigit)

/-- Reads the digits after a point, if there is one. -/
def readFraction (cs : List Char) : Option (Option (List Char) × List Char) :=
  match cs with
  | '.' :: rest =>
    let (digits, left) := spanDigits rest
    if digits.isEmpty then none else some (some digits, left)
  | _ => some (none, cs)

/-- Reads an exponent, if there is one. -/
def readExponent (cs : List Char) : Option (Option Int × List Char) :=
  match cs with
  | c :: rest =>
    if c == 'e' || c == 'E' then
      let negative := rest.head? == some '-'
      let digits := if negative || rest.head? == some '+' then rest.tail else rest
      let (digits, left) := spanDigits digits
      if digits.isEmpty then none
      else
        let n : Int := digitsValue digits
        some (some (if negative then -n else n), left)
    else some (none, cs)
  | [] => some (none, [])

/-- Reads a number. There is no plus sign in front and no zero before other digits. -/
def readNumber (cs : List Char) : Option (JsonNumber × List Char) :=
  let negative := cs.head? == some '-'
  let (whole, rest) := spanDigits (if negative then cs.tail else cs)
  if whole.isEmpty || (whole.length > 1 && whole.head? == some '0') then none
  else
    match readFraction rest with
    | none => none
    | some (fraction?, rest) =>
      match readExponent rest with
      | none => none
      | some (exponent?, rest) =>
        let fraction := fraction?.getD []
        some
          ({ negative
             mantissa := digitsValue (whole ++ fraction)
             exponent := exponent?.getD 0 - fraction.length
             isWhole := fraction?.isNone && exponent?.isNone }, rest)

/-! ### Values -/

/-- Takes a word off the front of a text. -/
def dropWord? (word : String) (cs : List Char) : Option (List Char) :=
  if word.toList.isPrefixOf cs then some (cs.drop word.length) else none

mutual

/-- Reads a value. `fuel` bounds how many units are read; a text has no more units than
characters. -/
def readValue : Nat → List Char → Option (Json × List Char)
  | 0, _ => none
  | fuel + 1, cs =>
    match skipSpace cs with
    | '"' :: rest => (readString rest).map fun (s, left) => (text s, left)
    | '[' :: rest =>
      match skipSpace rest with
      | ']' :: left => some (array [], left)
      | items => (readElements fuel items).map fun (values, left) => (array values, left)
    | '\x7b' :: rest =>
      match skipSpace rest with
      | '\x7d' :: left => some (object [], left)
      | items => (readMembers fuel items).map fun (members, left) => (object members, left)
    | 't' :: rest => (dropWord? "rue" rest).map fun left => (bool true, left)
    | 'f' :: rest => (dropWord? "alse" rest).map fun left => (bool false, left)
    | 'n' :: rest => (dropWord? "ull" rest).map fun left => (null, left)
    | cs => (readNumber cs).map fun (n, left) => (number n, left)

/-- Reads one or more values up to the closing bracket. -/
def readElements : Nat → List Char → Option (List Json × List Char)
  | 0, _ => none
  | fuel + 1, cs =>
    match readValue fuel cs with
    | none => none
    | some (v, rest) =>
      match skipSpace rest with
      | ',' :: rest => (readElements fuel rest).map fun (vs, left) => (v :: vs, left)
      | ']' :: left => some ([v], left)
      | _ => none

/-- Reads one or more members up to the closing brace. -/
def readMembers : Nat → List Char → Option (List (String × Json) × List Char)
  | 0, _ => none
  | fuel + 1, cs =>
    match skipSpace cs with
    | '"' :: rest =>
      match readString rest with
      | none => none
      | some (name, rest) =>
        match skipSpace rest with
        | ':' :: rest =>
          match readValue fuel rest with
          | none => none
          | some (v, rest) =>
            match skipSpace rest with
            | ',' :: rest => (readMembers fuel rest).map fun (ms, left) => ((name, v) :: ms, left)
            | '\x7d' :: left => some ([(name, v)], left)
            | _ => none
        | _ => none
    | _ => none

end

/-- Reads a document. -/
def parse? (s : String) : Option Json :=
  match readValue (2 * s.length + 2) s.toList with
  | some (v, left) => if (skipSpace left).isEmpty then some v else none
  | none => none

end Json

end UrlRouting

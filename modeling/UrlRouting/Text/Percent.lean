import UrlRouting.Text.Numeral
import UrlRouting.Text.Utf8

/-!
# Percent-coding

A byte is written as `%` and two hexadecimal digits where its place in a URL does not allow
it as it stands. `percentEncode` writes a text for a place, `percentDecode` undoes every
well-formed escape of a text and leaves every other `%` alone.
-/

namespace UrlRouting.Text

/-- A place in a URL that text is written to. -/
inductive UrlPlace where
  /-- A segment of the path. -/
  | segment
  /-- A key or a value of the query. -/
  | query
deriving Repr, DecidableEq

/-- The printable ASCII characters that a path segment does not allow. -/
def segmentDelimiters : List Char :=
  [' ', '"', '#', '%', '/', '<', '>', '?', '\x60', '\x7b', '\x7d']

/-- The printable ASCII characters that a place does not allow. A query keeps three more for
itself than a segment does. -/
def UrlPlace.reserved : UrlPlace → List Char
  | segment => segmentDelimiters
  | query => segmentDelimiters ++ ['&', '=', '+']

/-- Whether a character stands for itself: printable ASCII that the place allows. -/
def UrlPlace.allows (place : UrlPlace) (c : Char) : Bool :=
  0x20 ≤ c.toNat && c.toNat < 0x7f && !place.reserved.contains c

/-- The upper-case hexadecimal digit of a number below sixteen. -/
def hexDigit (n : Nat) : Char := if n < 10 then Char.ofNat (0x30 + n) else Char.ofNat (0x37 + n)

/-- The escape of one byte. -/
def escapeByte (b : UInt8) : List Char := ['%', hexDigit (b.toNat / 16), hexDigit (b.toNat % 16)]

/-- One character as it is written at a place. -/
def percentEncodeChar (place : UrlPlace) (c : Char) : List Char :=
  if place.allows c then [c] else (String.utf8EncodeChar c).flatMap escapeByte

/-- A text as it is written at a place. -/
def percentEncode (place : UrlPlace) (s : String) : String :=
  String.ofList (s.toList.flatMap (percentEncodeChar place))

/-- The value of a byte that is a hexadecimal digit. -/
def hexByteValue? (b : UInt8) : Option Nat := hexDigitValue? (Char.ofNat b.toNat)

/-- Undoes every well-formed escape of a run of bytes, from left to right. -/
def unescapeBytes : List UInt8 → List UInt8
  | [] => []
  | [b] => [b]
  | [b, c] => [b, c]
  | b :: c :: d :: rest =>
    if b = 0x25 then
      match hexByteValue? c, hexByteValue? d with
      | some high, some low => UInt8.ofNat (high * 16 + low) :: unescapeBytes rest
      | _, _ => b :: unescapeBytes (c :: d :: rest)
    else b :: unescapeBytes (c :: d :: rest)

/-- The text that stands behind a percent-coded one. -/
def percentDecode (s : String) : String :=
  String.ofList (decodeUtf8 (unescapeBytes (encodeUtf8 s.toList)))

theorem toList_percentEncode (place : UrlPlace) (s : String) :
    (percentEncode place s).toList = s.toList.flatMap (percentEncodeChar place) := by
  simp [percentEncode]

theorem percentEncode_append (place : UrlPlace) (s t : String) :
    percentEncode place (s ++ t) = percentEncode place s ++ percentEncode place t := by
  simp [percentEncode, String.toList_append]

end UrlRouting.Text

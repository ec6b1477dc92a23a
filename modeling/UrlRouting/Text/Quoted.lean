import UrlRouting.Text.Unprintable

/-!
# Quoted text

A text between double quotes, with escapes for the characters that would end it or that do
not print. The `EscapeStyle` of a format names its short escapes and which other characters
are escaped in which way.
-/

namespace UrlRouting.Text

/-- The lower-case hexadecimal digits of a number. -/
def hexDigits (n : Nat) : List Char := Nat.toDigits 16 n

/-- `cs` with zeros in front, up to `width` characters. -/
def padZeros (width : Nat) (cs : List Char) : List Char :=
  List.replicate (width - cs.length) '0' ++ cs

/-- How a format escapes characters inside quotes. -/
structure EscapeStyle where
  /-- Characters that are written as a backslash and one letter. -/
  short : List (Char × Char)
  /-- Whether any other character has to be escaped. -/
  isHidden : Char → Bool
  /-- The escape of such a character. -/
  hidden : Char → List Char

namespace EscapeStyle

/-- One character between quotes. -/
def escape (style : EscapeStyle) (c : Char) : List Char :=
  match style.short.lookup c with
  | some letter => ['\\', letter]
  | none => if style.isHidden c then style.hidden c else [c]

/-- A text between quotes. -/
def quote (style : EscapeStyle) (s : String) : String :=
  String.ofList (['"'] ++ s.toList.flatMap style.escape ++ ['"'])

/-- Strings of a JSON document: control characters below the blank are escaped. -/
def json : EscapeStyle where
  short := [('"', '"'), ('\\', '\\'), ('\x08', 'b'), ('\x0c', 'f'), ('\n', 'n'), ('\r', 'r'),
    ('\t', 't')]
  isHidden c := c.toNat < 0x20
  hidden c := ['\\', 'u'] ++ padZeros 4 (hexDigits c.toNat)

/-- Strings of a diagnostic listing: characters that do not print are escaped by their code
point. -/
def listing : EscapeStyle where
  short := [('"', '"'), ('\\', '\\'), ('\n', 'n'), ('\r', 'r'), ('\t', 't'), ('\x00', '0')]
  isHidden := isUnprintable
  hidden c := ['\\', 'u', '\x7b'] ++ hexDigits c.toNat ++ ['\x7d']

end EscapeStyle

end UrlRouting.Text

/-!
# Decimal numerals

Numbers as they are written in route values and constraint arguments: ASCII digits with an
optional sign, within the bounds of a machine integer. Leading zeros are allowed, blanks and
digit separators are not.
-/

namespace UrlRouting.Text

/-- Whether a character is one of the ten ASCII digits. -/
def isDecimalDigit (c : Char) : Bool := '0' ≤ c && c ≤ '9'

/-- The value of a hexadecimal digit. -/
def hexDigitValue? (c : Char) : Option Nat :=
  if '0' ≤ c && c ≤ '9' then some (c.toNat - 0x30)
  else if 'A' ≤ c && c ≤ 'F' then some (c.toNat - 0x37)
  else if 'a' ≤ c && c ≤ 'f' then some (c.toNat - 0x57)
  else none

/-- The number that a run of digits stands for. -/
def digitsValue (cs : List Char) : Nat := cs.foldl (fun n c => n * 10 + (c.toNat - 0x30)) 0

/-- Reads one or more digits. -/
def readDigits? (cs : List Char) : Option Nat :=
  if cs.isEmpty || !cs.all isDecimalDigit then none else some (digitsValue cs)

/-- Reads digits after an optional sign. -/
def readSigned? : List Char → Option Int
  | '-' :: cs => (readDigits? cs).map fun n => -(n : Int)
  | '+' :: cs => (readDigits? cs).map fun n => (n : Int)
  | cs => (readDigits? cs).map fun n => (n : Int)

/-- Whether a number lies between `-half` and `half`, the latter excluded. -/
def fitsHalf (half : Nat) (n : Int) : Bool := decide (-(half : Int) ≤ n ∧ n < half)

/-- Half of how many numbers have 32 bits. -/
def half32 : Nat := 0x80000000

/-- Half of how many numbers have 64 bits. -/
def half64 : Nat := 0x8000000000000000

/-- Reads a number of 32 bits. -/
def readInt32? (s : String) : Option Int := (readSigned? s.toList).filter (fitsHalf half32)

/-- Reads a number of 64 bits. -/
def readInt64? (s : String) : Option Int := (readSigned? s.toList).filter (fitsHalf half64)

/-- Reads a length: digits after an optional plus sign, within 64 bits without a sign. -/
def readLength? (s : String) : Option Nat :=
  let digits := match s.toList with
    | '+' :: cs => cs
    | cs => cs
  (readDigits? digits).filter fun n => decide (n < 2 * half64)

/-- A number in decimal digits. -/
def decimal (n : Int) : String :=
  if n < 0 then "-" ++ String.ofList (Nat.toDigits 10 n.natAbs)
  else String.ofList (Nat.toDigits 10 n.natAbs)

end UrlRouting.Text

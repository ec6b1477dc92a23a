/-!
# Decimals of floating-point numbers

A finite floating-point number stands for all reals that are rounded to it. `Decimal.ofBinary`
gives a decimal with few digits among them. The ends of the interval of these reals are multiplied
by a power of ten that brings them to a handy size. Digits are taken from the upper end until what
is left of it is less than the width of the interval, and then the last digit is lowered as long as
that brings the decimal nearer to the number.

The products have 64 bits, like the powers of ten, so that they are not exact. The interval is
made smaller by their error: the decimal always reads back as the number, but once in a while there
would be a shorter or a nearer one.
-/

namespace UrlRouting

/-- A decimal: `digits * 10 ^ exponent`. -/
structure Decimal where
  /-- The digits as one number. -/
  digits : Nat
  /-- The power of ten that they are scaled by. -/
  exponent : Int
deriving Repr, DecidableEq

/-- A number `significand * 2 ^ exponent`. -/
structure Binary where
  /-- The significand. -/
  significand : Nat
  /-- The power of two that it is scaled by. -/
  exponent : Int
deriving Repr, DecidableEq

/-! ### Binary numbers -/

namespace Binary

/-- The bit of a significand that is not stored. -/
def hiddenBit : Nat := 0x10000000000000

/-- The magnitude of a finite floating-point number. -/
def ofBits (bits : UInt64) : Binary :=
  let fraction : Nat := bits.toNat % hiddenBit
  let biased : Nat := (bits.toNat / hiddenBit) % 0x800
  if biased = 0 then ⟨fraction, -1074⟩ else ⟨hiddenBit + fraction, (biased : Int) - 1075⟩

/-- The part of a power that is a natural number. -/
def powPart (base : Nat) (n : Int) : Nat := Nat.pow base n.toNat

/-- The same number with a smaller exponent. -/
def withExponent (b : Binary) (exponent : Int) : Binary :=
  ⟨b.significand * powPart 2 (b.exponent - exponent), exponent⟩

/-- The same number with a significand of 64 bits. -/
def widen (b : Binary) : Binary := b.withExponent (b.exponent - (63 - b.significand.log2))

/-- The upper end of the interval of the reals that are rounded to the number. -/
def upperEnd (b : Binary) : Binary := ⟨2 * b.significand + 1, b.exponent - 1⟩

/-- The lower end of that interval. Below the smallest significand the numbers are twice as
dense. -/
def lowerEnd (b : Binary) : Binary :=
  if b.significand = hiddenBit then ⟨4 * b.significand - 1, b.exponent - 2⟩
  else ⟨2 * b.significand - 1, b.exponent - 1⟩

/-- A quotient rounded to the nearest natural number. -/
def roundedQuotient (n d : Nat) : Nat := (n + d / 2) / d

/-- The power `10 ^ k` with a significand of 64 bits. -/
def powerOfTen (k : Int) : Binary :=
  if 0 ≤ k then
    let power := powPart 10 k
    let exponent : Int := (power.log2 : Int) - 63
    ⟨roundedQuotient (power * powPart 2 (-exponent)) (powPart 2 exponent), exponent⟩
  else
    let power := powPart 10 (-k)
    let exponent : Int := -(power.log2 : Int) - 64
    ⟨roundedQuotient (powPart 2 (-exponent)) power, exponent⟩

/-- How many numbers have 64 bits. -/
def wordSize : Nat := 0x10000000000000000

/-- The product of two numbers of 64 bits, rounded to 64 bits. -/
def times (a b : Binary) : Binary :=
  ⟨roundedQuotient (a.significand * b.significand) wordSize, a.exponent + b.exponent + 64⟩

/-- The power of ten that a number of 64 bits is multiplied by, given its exponent. The product
has between 32 and 60 bits after the point. Every eighth power is in use. -/
def scalingPower (exponent : Int) : Int :=
  8 * ((347 - (exponent + 61) * 30103 / 100000) / 8 + 1) - 348

end Binary

/-! ### Digits -/

namespace Decimal

/-- An interval from which digits are taken, in units so small that its ends are whole. -/
structure Interval where
  /-- How many units make one. -/
  one : Nat
  /-- The upper end. -/
  upper : Nat
  /-- How far the lower end lies below the upper one. -/
  width : Nat
  /-- How far the number in question lies below the upper end. -/
  gap : Nat
deriving Repr

/-- Lowers the last digit while the decimal lies above the number, stays in the interval and comes
nearer to the number. The decimal lies `rest` below the upper end, and the digit counts `unit`. -/
def lowerLast (width gap unit : Nat) : Nat → Nat → Nat → Nat
  | 0, _, digits => digits
  | fuel + 1, rest, digits =>
    if rest < gap && rest + unit ≤ width
        && (rest + unit < gap || rest + unit - gap < gap - rest) then
      lowerLast width gap unit fuel (rest + unit) (digits - 1)
    else digits

/-- Takes digits after the point until the rest is within the interval. The distances are scaled
up by ten for each digit. After nine such digits the last digit is left as it is. -/
def fractionDigits (one : Nat) : Nat → Nat → Nat → Nat → Nat → Nat → Decimal
  | 0, places, digits, _, _, _ => ⟨digits, -(places : Int)⟩
  | fuel + 1, places, digits, rest, width, gap =>
    let places := places + 1
    let digits := digits * 10 + rest * 10 / one
    let rest := rest * 10 % one
    let width := width * 10
    let gap := gap * 10
    if rest < width then
      ⟨lowerLast width (if places < 9 then gap else 0) one 9 rest digits, -(places : Int)⟩
    else fractionDigits one fuel places digits rest width gap

/-- Takes the digits before the point until the rest is within the interval, and goes on after the
point if it never is. -/
def wholeDigits (i : Interval) : Nat → Nat → Nat → Decimal
  | 0, digits, rest => fractionDigits i.one 20 0 digits rest i.width i.gap
  | places + 1, digits, rest =>
    let unit := Nat.pow 10 places * i.one
    let digits := digits * 10 + rest / unit
    let rest := rest % unit
    if rest ≤ i.width then ⟨lowerLast i.width i.gap unit 9 rest digits, places⟩
    else wholeDigits i places digits rest

/-- A decimal with few digits in an interval. -/
def ofInterval (i : Interval) : Decimal :=
  wholeDigits i (Nat.toDigits 10 (i.upper / i.one)).length 0 i.upper

/-- The interval of the reals that are rounded to a number, multiplied by `10 ^ k` and made smaller
by the error of the products. -/
def scaledInterval (b : Binary) (k : Int) : Interval :=
  let scale (b : Binary) : Binary := b.times (.powerOfTen k)
  let top := b.upperEnd.widen
  let upper := scale top
  let lower := scale (b.lowerEnd.withExponent top.exponent)
  { one := Binary.powPart 2 (-upper.exponent)
    upper := upper.significand - 1
    width := (upper.significand - 1) - (lower.significand + 1)
    gap := (upper.significand - 1) - (scale b.widen).significand }

/-- A decimal with few digits that reads back as a positive number. -/
def ofBinary (b : Binary) : Decimal :=
  let k := Binary.scalingPower b.upperEnd.widen.exponent
  let d := ofInterval (scaledInterval b k)
  { d with exponent := d.exponent - k }

end Decimal

end UrlRouting

/-!
# JSON values

Values of a JSON document. Members of an object keep their order and may repeat a name, as
they do in the text; a number keeps its decimal digits, since a whole number written with a
point or an exponent is not the same thing to every reader.
-/

namespace UrlRouting

/-- A number of a document: `mantissa * 10 ^ exponent`, with its sign. -/
structure JsonNumber where
  /-- Whether it is written with a minus sign. -/
  negative : Bool
  /-- All digits, the point left out. -/
  mantissa : Nat
  /-- The power of ten that the digits are scaled by. -/
  exponent : Int
  /-- Whether it is written without a point and without an exponent. -/
  isWhole : Bool
deriving Repr, DecidableEq

/-- A value of a document. -/
inductive Json where
  /-- The value `null`. -/
  | null
  /-- A truth value. -/
  | bool (b : Bool)
  /-- A number. -/
  | number (n : JsonNumber)
  /-- A text. -/
  | text (s : String)
  /-- A list of values. -/
  | array (values : List Json)
  /-- Values under names. -/
  | object (members : List (String × Json))
deriving Repr, Inhabited

namespace JsonNumber

/-- A whole number. -/
def ofInt (n : Int) : JsonNumber where
  negative := n < 0
  mantissa := n.natAbs
  exponent := 0
  isWhole := true

/-- The value of a number that is written as a whole one. Minus zero is not whole: it is the
zero of the floating-point numbers. -/
def int? (n : JsonNumber) : Option Int :=
  if n.isWhole && !(n.negative && n.mantissa == 0) then
    some (if n.negative then -(n.mantissa : Int) else n.mantissa)
  else none

/-- How many numbers have 64 bits. -/
def wordSize : Nat := 0x10000000000000000

/-- The leading digits of a mantissa that fit into 64 bits, and the exponent that goes with them;
all other digits are left out. -/
def leadingDigits : Nat → Nat → Int → Nat × Int
  | 0, mantissa, exponent => (mantissa, exponent)
  | fuel + 1, mantissa, exponent =>
    if mantissa < wordSize then (mantissa, exponent)
    else leadingDigits fuel (mantissa / 10) (exponent + 1)

/-- A power of ten. Those above `10 ^ 308` are infinite. -/
def powerOfTen (n : Nat) : Float := Float.ofScientific 1 false n

/-- Scales a number by a power of ten. Where one division is not enough, the number is divided by
`10 ^ 308` first; after three times nothing is left of it. -/
def scaleByTen : Nat → Float → Int → Float
  | 0, x, _ => x
  | fuel + 1, x, exponent =>
    if 0 ≤ exponent then x * powerOfTen exponent.toNat
    else if -308 ≤ exponent then x / powerOfTen exponent.natAbs
    else scaleByTen fuel (x / powerOfTen 308) (exponent + 308)

/-- The number as a floating-point number. It is rounded twice, the digits first and then their
product with the power of ten, so that with many digits it need not be the nearest one. -/
def toFloat (n : JsonNumber) : Float :=
  let (digits, exponent) :=
    leadingDigits (Nat.toDigits 10 n.mantissa).length n.mantissa n.exponent
  let magnitude := if digits = 0 then 0 else scaleByTen 4 (Float.ofNat digits) exponent
  if n.negative then -magnitude else magnitude

end JsonNumber

namespace Json

/-- A whole number. -/
def int (n : Int) : Json := number (.ofInt n)

/-- The value of a member; where a name is repeated, the last one counts. -/
def member? : Json → String → Option Json
  | object members, name => (members.reverse.find? fun m => m.1 == name).map Prod.snd
  | _, _ => none

/-- The text of a value that is one. -/
def text? : Json → Option String
  | text s => some s
  | _ => none

/-- The values of a list. -/
def array? : Json → Option (List Json)
  | array values => some values
  | _ => none

/-- The members of an object. -/
def object? : Json → Option (List (String × Json))
  | object members => some members
  | _ => none

/-- The truth value of a value that is one. -/
def bool? : Json → Option Bool
  | bool b => some b
  | _ => none

/-- The value of a whole number. -/
def int? : Json → Option Int
  | number n => n.int?
  | _ => none

end Json

end UrlRouting

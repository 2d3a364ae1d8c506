/-!
A value is held by its bits in the binary64 format: a sign, eleven bits of exponent and 52 bits of
fraction. Every finite magnitude is a whole number of units of `2 ^ -1074`, so it is decoded into
that number, and what is asked about it becomes arithmetic of natural numbers.
-/

namespace GoldFront

/-- A floating point value, by its bits. -/
structure Binary64 where
  /-- Sign, exponent and fraction, from the highest bit down. -/
  bits : UInt64
deriving DecidableEq, Repr

namespace Binary64

/-- Whether the sign bit is set. -/
def isNegative (x : Binary64) : Bool := Nat.pow 2 63 ≤ x.bits.toNat

def exponent (x : Binary64) : Nat := x.bits.toNat / Nat.pow 2 52 % Nat.pow 2 11

def fraction (x : Binary64) : Nat := x.bits.toNat % Nat.pow 2 52

def isFinite (x : Binary64) : Bool := x.exponent != 2047

def isNaN (x : Binary64) : Bool := x.exponent == 2047 && x.fraction != 0

/-- Whether this is one of the two zeros. -/
def isZero (x : Binary64) : Bool := x.exponent == 0 && x.fraction == 0

/-- The fraction with the digit before its point, which only the least exponent lacks. -/
def significand (x : Binary64) : Nat :=
  if x.exponent = 0 then x.fraction else Nat.pow 2 52 + x.fraction

/-- The distance to the next larger magnitude, in units of `2 ^ -1074`. -/
def spacing (x : Binary64) : Nat := Nat.pow 2 (max x.exponent 1 - 1)

/-- The magnitude of a finite value, in units of `2 ^ -1074`. -/
def magnitude (x : Binary64) : Nat := x.significand * x.spacing

/-- How many units of `magnitude` make one. -/
def one : Nat := Nat.pow 2 1074

/-- Whether a finite value is a whole number. -/
def isWhole (x : Binary64) : Bool := x.magnitude % one == 0

/-- The units of a value with its sign; an infinity counts as the next power of two. -/
def signed (x : Binary64) : Int := if x.isNegative then -(x.magnitude : Int) else x.magnitude

/-- Whether the fractional part is zero. An infinity has none: without its whole part it is no
    number. -/
def hasNoFraction (x : Binary64) : Bool := x.isFinite && x.isWhole

/-- Whether a number is at most another; what is no number stands in no order. -/
def atMost (x y : Binary64) : Bool := !x.isNaN && !y.isNaN && x.signed ≤ y.signed

/-- Whether a number is less than another. -/
def below (x y : Binary64) : Bool := !x.isNaN && !y.isNaN && x.signed < y.signed

/-- The whole part, or the nearest number of 64 bits where it has more; zero for what is no
    number. -/
def toInt64 (x : Binary64) : Int64 :=
  if x.isNaN then 0 else Int64.ofIntClamp (x.signed.tdiv one)

/-- The least whole number of 64 bits, `-2 ^ 63`. -/
def leastInt64 : Binary64 := ⟨0xc3e0000000000000⟩

/-- The first number past the whole numbers of 64 bits, `2 ^ 63`. -/
def pastInt64 : Binary64 := ⟨0x43e0000000000000⟩

/-- Whether a value is the given whole number. What is outside of the range is told by comparing,
    because `toInt64` answers the nearest number there. -/
def equalsInt64 (x : Binary64) (number : Int64) : Bool :=
  x.hasNoFraction && leastInt64.atMost x && x.below pastInt64 && x.toInt64 == number

/-- Equality of numbers: both zeros are equal, and what is no number equals nothing. -/
def equal (x y : Binary64) : Bool :=
  !x.isNaN && !y.isNaN && (x.bits == y.bits || (x.isZero && y.isZero))

/-- The bits of some value that is no number. -/
def nan : Binary64 := ⟨0x7ff8000000000000⟩

/-- Whether the magnitude `digits / 10 ^ places` is nearer to this one than to any other, or as near
    and this one has an even significand. Magnitudes are counted in quarters of the unit, so that
    half the spacing on either side is a whole number. Below a power of two the spacing is half as
    wide. -/
def readsBack (x : Binary64) (places digits : Nat) : Bool :=
  let value := digits * (4 * one)
  let power := Nat.pow 10 places
  let above := (4 * x.magnitude + 2 * x.spacing) * power
  let narrow := x.fraction == 0 && 1 < x.exponent
  let below := (4 * x.magnitude - (if narrow then 1 else 2) * x.spacing) * power
  if x.significand % 2 = 0 then below ≤ value && value ≤ above
  else below < value && value < above

/-- The nearest decimal of the given number of places that reads back as the value. -/
def decimalAt? (x : Binary64) (places : Nat) : Option Nat :=
  let scaled := x.magnitude * Nat.pow 10 places
  let floor := scaled / one
  match x.readsBack places floor, x.readsBack places (floor + 1) with
  | true, true => some (if 2 * (scaled % one) < one then floor else floor + 1)
  | true, false => some floor
  | false, true => some (floor + 1)
  | false, false => none

/-- The first decimal that reads back, from a number of places on; past the given number of further
    places the value itself is a decimal. -/
def decimalFrom (x : Binary64) (places : Nat) : Nat → Nat × Nat
  | 0 => (places, x.magnitude * Nat.pow 10 places / one)
  | further + 1 =>
    match x.decimalAt? places with
    | some digits => (places, digits)
    | none => decimalFrom x (places + 1) further

/-- The number of places and the digits that a value is written with. At 1074 places every value is
    a decimal. -/
def decimal (x : Binary64) : Nat × Nat :=
  if x.isWhole then (1, x.magnitude / one * 10) else x.decimalFrom 1 1073

/-- Digits after a point: as many as there are places. -/
def fractionDigits (places digits : Nat) : List Char :=
  let written := Nat.toDigits 10 digits
  List.replicate (places - written.length) '0' ++ written

/-- The text of the magnitude `digits / 10 ^ places`. -/
def positional (places digits : Nat) : List Char :=
  let power := Nat.pow 10 places
  Nat.toDigits 10 (digits / power) ++ '.' :: fractionDigits places (digits % power)

def text (x : Binary64) : List Char :=
  if x.isNaN then ['N', 'a', 'N']
  else
    let magnitude :=
      if x.isFinite then positional x.decimal.1 x.decimal.2 else ['i', 'n', 'f']
    if x.isNegative then '-' :: magnitude else magnitude

end Binary64

end GoldFront

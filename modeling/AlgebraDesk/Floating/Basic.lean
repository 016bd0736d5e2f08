import AlgebraDesk.Double.Basic
import AlgebraDesk.Decimal.Shortest

/-!
# Floating-point numbers of any precision

A floating-point number is `mantissa * 2 ^ exponent` together with the number of bits its results
are rounded to.  The mantissa is odd or zero and the exponent has no bounds, so a number that is too
large or too small for a double is a number here.

* `Floating`            the numbers, one form for each value and precision;
* `rounded`             the nearest number with a given count of bits, a half going to the even one;
* `ofQuotient`          the nearest number to a quotient;
* `add`, `mul`, `div`, `powInt`  arithmetic, rounded once;
* `bitsForDigits`, `digitsForBits`   how many bits hold a count of decimal digits, and back;
* `ofDigits`, `toDouble`  from decimal digits, and to the double that the digits of a number spell.
-/

namespace AlgebraDesk

open Decimal (Digits roundHalfEven tenTo twoTo)

/-- `mantissa * 2 ^ exponent`, good for `precision` bits -/
structure Floating where
  mantissa : Int
  exponent : Int
  precision : Nat
  deriving DecidableEq, Repr

namespace Floating

def bitLength (n : Nat) : Nat := if n = 0 then 0 else n.log2 + 1

/-- `n * 2 ^ k`, toward zero when `k` is negative. -/
def shift (n : Nat) (k : Int) : Nat := if 0 ≤ k then n <<< k.toNat else n >>> (-k).toNat

/-- `n * 2 ^ k`, downward when `k` is negative. -/
def shiftInt (n : Int) (k : Int) : Int := if 0 ≤ k then n * twoTo k.toNat else n >>> (-k).toNat

/-- The number of factors of two, for a number that is not zero. -/
def twos (n : Nat) : Nat := (n ^^^ (n - 1)).log2

/-- The form with an odd mantissa. -/
def make (negative : Bool) (m : Nat) (e : Int) (precision : Nat) : Floating :=
  if m = 0 then ⟨0, 0, precision⟩
  else ⟨Double.signed negative (m >>> twos m), e + twos m, precision⟩

def rounded (precision : Nat) (negative : Bool) (m : Nat) (e : Int) : Floating :=
  let excess := bitLength m - precision
  make negative (roundHalfEven m (twoTo excess)) (e + excess) precision

def ofInt (precision : Nat) (n : Int) : Floating := rounded precision (n < 0) n.natAbs 0

/-- A quotient is taken with two more bits than needed and one for what is left. -/
def ofQuotient (precision : Nat) (num : Int) (den : Nat) : Floating :=
  let k : Int := precision + 2 + bitLength den - bitLength num.natAbs
  let n := num.natAbs <<< k.toNat
  let d := den <<< (-k).toNat
  let rest := if n % d = 0 then 0 else 1
  rounded precision (num < 0) (2 * (n / d) + rest) (-k - 1)

def ofRat (precision : Nat) (q : Rat) : Floating := ofQuotient precision q.num q.den

/-! ## arithmetic -/

def isZero (x : Floating) : Bool := x.mantissa == 0

def isNegative (x : Floating) : Bool := x.mantissa < 0

/-- The number is below `2 ^ magnitude`, and not below half of it. -/
def magnitude (x : Floating) : Int := x.exponent + bitLength x.mantissa.natAbs

/-- Numbers beyond this magnitude are not handed to functions, which would need as many bits. -/
def functionReach : Int := 100000

def isModerate (x : Floating) : Bool :=
  -functionReach ≤ x.magnitude && x.magnitude ≤ functionReach

def neg (x : Floating) : Floating := { x with mantissa := -x.mantissa }

def abs (x : Floating) : Floating := { x with mantissa := x.mantissa.natAbs }

def withPrecision (x : Floating) (precision : Nat) : Floating :=
  rounded precision x.isNegative x.mantissa.natAbs x.exponent

/-- The mantissa over a lower exponent. -/
def mantissaAt (x : Floating) (e : Int) : Int := x.mantissa * twoTo (x.exponent - e).toNat

/-- A summand far below the last bit of the other one only shows on which side the sum lies. -/
def addFar (precision : Nat) (large small : Floating) : Floating :=
  let e := large.exponent - (precision + 4 : Nat)
  let m := large.mantissaAt e + small.mantissa.sign
  rounded precision (m < 0) m.natAbs e

def addNear (precision : Nat) (x y : Floating) : Floating :=
  let e := min x.exponent y.exponent
  let m := x.mantissaAt e + y.mantissaAt e
  rounded precision (m < 0) m.natAbs e

def add (x y : Floating) : Floating :=
  let precision := max x.precision y.precision
  let gap : Int := precision + 8
  if x.isZero then y.withPrecision precision
  else if y.isZero then x.withPrecision precision
  else if y.magnitude + gap < x.exponent then addFar precision x y
  else if x.magnitude + gap < y.exponent then addFar precision y x
  else addNear precision x y

def mul (x y : Floating) : Floating :=
  let m := x.mantissa * y.mantissa
  rounded (max x.precision y.precision) (m < 0) m.natAbs (x.exponent + y.exponent)

/-- A quotient by a number other than zero. -/
def div (x y : Floating) : Floating :=
  let precision := max x.precision y.precision
  let num := if y.isNegative then -x.mantissa else x.mantissa
  let z := ofQuotient precision num y.mantissa.natAbs
  if z.isZero then z else { z with exponent := z.exponent + x.exponent - y.exponent }

def inverse (x : Floating) : Floating := div ⟨1, 0, x.precision⟩ x

/-- A power by squaring; `fuel` bounds the number of bits of the exponent. -/
def powLoop (x : Floating) (n : Nat) : Nat → Floating
  | 0 => ⟨1, 0, x.precision⟩
  | fuel + 1 =>
    if n = 0 then ⟨1, 0, x.precision⟩
    else
      let r := powLoop x (n / 2) fuel
      let s := r.mul r
      if n % 2 = 1 then s.mul x else s

/-- The steps are made with bits to spare. -/
def powNat (x : Floating) (n : Nat) : Floating :=
  let spare := 2 * bitLength n + 16
  let r := powLoop { x with precision := x.precision + spare } n (bitLength n)
  r.withPrecision x.precision

def powInt (x : Floating) (n : Int) : Floating :=
  if n < 0 then
    let wide := { x with precision := x.precision + 32 }
    (wide.powNat n.natAbs).inverse.withPrecision x.precision
  else x.powNat n.natAbs

def isInteger (x : Floating) : Bool := x.isZero || 0 ≤ x.exponent

/-- The whole number that it is. -/
def toInt (x : Floating) : Int := x.mantissa * twoTo x.exponent.toNat

/-! ## decimal digits -/

/-- Bits for one decimal digit, in units of 10 ^ -16. -/
def bitsPerDigit : Nat := 33219280948873626

def bitsForDigits (n : Nat) : Nat := max 1 (roundHalfEven ((n + 1) * bitsPerDigit) (tenTo 16))

def digitsForBits (n : Nat) : Nat := max 1 (roundHalfEven (n * tenTo 16) bitsPerDigit - 1)

def ofDigits (precision : Nat) (d : Digits) : Floating :=
  let (num, den) := d.ratio
  ofQuotient precision num den

/-- The count of decimal places that leaves `count` significant digits of `num / den`. -/
def placesFor (count num den : Nat) : Int :=
  let digitsOf (n : Nat) : Int := (Decimal.digits n).length
  let top := if den ≤ num then digitsOf (num / den) - 1 else -(digitsOf ((den - 1) / num))
  count - 1 - top

/-- Numbers with a magnitude beyond this are zero or infinite as doubles. -/
def doubleReach : Int := 2000

/-- The nearest double to the digits of a number, as many as its precision is good for. -/
def toDouble (x : Floating) : Float :=
  if x.isZero || x.magnitude < -doubleReach then Double.ofCode x.isNegative 0
  else if doubleReach < x.magnitude then Double.ofCode x.isNegative Double.infinityCode
  else
    let num := x.mantissa.natAbs * twoTo x.exponent.toNat
    let den := twoTo (-x.exponent).toNat
    let places := placesFor (digitsForBits x.precision) num den
    let n := roundHalfEven (num * tenTo places.toNat) (den * tenTo (-places).toNat)
    Double.nearest x.isNegative (n * tenTo (-places).toNat) (tenTo places.toNat)

end Floating

end AlgebraDesk

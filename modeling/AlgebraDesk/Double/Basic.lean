import AlgebraDesk.Decimal.Rounding

/-!
# Doubles as exact numbers

A finite double is a sign and a natural number of units, the unit being the smallest positive
double, 2 ^ -1074.  The magnitude of a double is coded in 63 bits, and the order of the codes is the
order of the magnitudes; so rounding to the nearest double is rounding a quotient and adding the
binade on top, and a carry out of the mantissa needs no case of its own.

* `Magnitude`             mantissa and scale, worth `mantissa * 2 ^ scale` units;
* `form`                  a double as finite, infinite, or not a number;
* `nearestCode`           the code of the double nearest to a quotient, a half going to the even
                          mantissa;
* `nearest`               that double, infinite when the quotient is out of range;
* `ofInt`, `quotient`     an integer, and a quotient of two, as the nearest double;
* `truncate?`, `round?`   the integer part, and the nearest integer, of a finite double.
-/

namespace AlgebraDesk.Double

open Decimal (roundHalfEven twoTo twoTo_pos)

/-- `mantissa * 2 ^ scale` units -/
structure Magnitude where
  mantissa : Nat
  scale : Nat
  deriving DecidableEq, Repr

def unitExponent : Nat := 1074

def unitsPerOne : Nat := twoTo unitExponent

theorem unitsPerOne_pos : 0 < unitsPerOne := twoTo_pos unitExponent

namespace Magnitude

def units (m : Magnitude) : Nat := m.mantissa * twoTo m.scale

def isZero (m : Magnitude) : Bool := m.mantissa == 0

/-- A whole number of ones. -/
def isWhole (m : Magnitude) : Bool := m.units % unitsPerOne == 0

/-- The number of whole ones. -/
def whole (m : Magnitude) : Nat := m.units / unitsPerOne

/-- A code below 2 ^ 53 is the number of units itself; above, it holds the binade and the mantissa
without its first bit. -/
def ofCode (code : Nat) : Magnitude :=
  if code < twoTo 53 then ⟨code, 0⟩
  else ⟨twoTo 52 + code % twoTo 52, code / twoTo 52 - 1⟩

def code (m : Magnitude) : Nat := m.scale * twoTo 52 + m.mantissa

theorem code_ofCode (n : Nat) : (ofCode n).code = n := by
  unfold ofCode code
  split
  · simp
  · have e : twoTo 52 * (n / twoTo 52) + n % twoTo 52 = n := Nat.div_add_mod n _
    have h52 : twoTo 52 = 4503599627370496 := by decide
    have h53 : twoTo 53 = 9007199254740992 := by decide
    simp only [h52, h53] at *
    omega

end Magnitude

/-! ## reading the bits -/

inductive Form where
  | finite (negative : Bool) (magnitude : Magnitude)
  | infinite (negative : Bool)
  | nan
  deriving DecidableEq, Repr

def signWeight : Nat := twoTo 63

/-- the code of infinity -/
def infinityCode : Nat := 2047 * twoTo 52

/-- one of the codes of what is not a number -/
def nanCode : Nat := infinityCode + twoTo 51

def form (x : Float) : Form :=
  let bits := x.toBits.toNat
  let negative : Bool := signWeight ≤ bits
  let code := bits % signWeight
  if code < infinityCode then .finite negative (.ofCode code)
  else if code = infinityCode then .infinite negative
  else .nan

/-- The double with this sign and code. -/
def ofCode (negative : Bool) (code : Nat) : Float :=
  Float.ofBits (UInt64.ofNat ((if negative then signWeight else 0) + code))

/-! ## rounding to a double -/

/-- The code of the double nearest to `num / den`; `infinityCode` or more when that is out of
range. -/
def nearestCode (num den : Nat) : Nat :=
  let units := num * unitsPerOne
  let floor := units / den
  let width := if floor = 0 then 0 else floor.log2 + 1
  let scale := width - 53
  scale * twoTo 52 + roundHalfEven units (den * twoTo scale)

def nearest (negative : Bool) (num den : Nat) : Float :=
  ofCode negative (min (nearestCode num den) infinityCode)

/-- The nearest double to an integer, none when it is out of range. -/
def ofInt? (n : Int) : Option Float :=
  let x := nearest (n < 0) n.natAbs 1
  if x.isFinite then some x else none

/-- The nearest double to a quotient of integers, none when it is out of range; the divisor is not
zero.  Nothing divided by a negative number is a negative zero. -/
def quotient? (num den : Int) : Option Float :=
  let x := nearest ((num < 0) != (den < 0)) num.natAbs den.natAbs
  if x.isFinite then some x else none

/-! ## integers from doubles -/

def signed (negative : Bool) (n : Nat) : Int := if negative then -(n : Int) else n

/-- The integer part, toward zero. -/
def truncate? (x : Float) : Option Int :=
  match form x with
  | .finite negative m => some (signed negative m.whole)
  | _ => none

/-- The nearest integer; a half goes to the even one. -/
def Magnitude.rounded (m : Magnitude) : Nat := roundHalfEven m.units unitsPerOne

def round? (x : Float) : Option Int :=
  match form x with
  | .finite negative m => some (signed negative m.rounded)
  | _ => none

def isWhole (x : Float) : Bool :=
  match form x with
  | .finite _ m => m.isWhole
  | _ => false

end AlgebraDesk.Double

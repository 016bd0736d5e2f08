import AlgebraDesk.Decimal.Fixed

/-!
# Shortest digits

A double is written with the fewest digits that read back as the same double, and of those with the
ones nearest to it.  For one digit, then two, and so on, the two neighbours of the value on the
decimal grid are tried; seventeen digits always suffice.

* `tenExponent`    the power of ten of the first digit;
* `reads`          whether a decimal reads back as a magnitude;
* `shortest`       the digits, as a number and a power of ten;
* `Notation.text`  the text of a double in a notation;
* `Notation.plain` the notation of the desk's data: a point in every number, an exponent of at
                   least two digits from 1e16 upward and below 1e-4.
-/

namespace AlgebraDesk.Decimal

open Double (Magnitude unitsPerOne nearestCode)

/-- `significand * 10 ^ exponent` -/
structure Digits where
  significand : Nat
  exponent : Int
  deriving DecidableEq, Repr

/-- numerator and denominator -/
def Digits.ratio (d : Digits) : Nat × Nat :=
  if 0 ≤ d.exponent then (d.significand * tenTo d.exponent.toNat, 1)
  else (d.significand, tenTo (-d.exponent).toNat)

/-- `k` with 10 ^ k ≤ value < 10 ^ (k + 1), for a magnitude that is not zero. -/
def tenExponent (m : Magnitude) : Int :=
  if unitsPerOne ≤ m.units then ((digits m.whole).length : Int) - 1
  else -((digits ((unitsPerOne - 1) / m.units)).length : Int)

def reads (m : Magnitude) (d : Digits) : Bool :=
  let (num, den) := d.ratio
  nearestCode num den == m.code

/-- The grid point at or below a magnitude, and twice its distance to the value against one step:
`lt` when the lower neighbour is nearer. -/
def lowerNeighbour (m : Magnitude) (exponent : Int) : Nat × Ordering :=
  let num := m.units * tenTo (-exponent).toNat
  let den := unitsPerOne * tenTo exponent.toNat
  (num / den, compare (2 * (num % den)) den)

/-- The better of the two neighbours on one grid, if one of them reads back. -/
def onGrid? (m : Magnitude) (exponent : Int) : Option Digits :=
  let (low, side) := lowerNeighbour m exponent
  let below : Digits := ⟨low, exponent⟩
  let above : Digits := ⟨low + 1, exponent⟩
  match reads m below, reads m above with
  | true, true =>
    match side with
    | .lt => some below
    | .gt => some above
    | .eq => some (if low % 2 = 0 then below else above)
  | true, false => some below
  | false, true => some above
  | false, false => none

/-- Without zeros at the end; `fuel` bounds their number. -/
def Digits.stripZeros (d : Digits) : Nat → Digits
  | 0 => d
  | fuel + 1 =>
    if d.significand ≠ 0 ∧ d.significand % 10 = 0 then
      stripZeros ⟨d.significand / 10, d.exponent + 1⟩ fuel
    else d

def shortest (m : Magnitude) : Digits :=
  if m.isZero then ⟨0, 0⟩
  else
    let k := tenExponent m
    match (List.range 17).findSome? fun i : Nat => onGrid? m (k - i) with
    | some d => d.stripZeros 17
    | none => ⟨m.units, 0⟩

/-! ## layout -/

/-- How digits are laid out as text. -/
structure Notation where
  /-- a value whose first digit has one of these powers of ten is written positionally -/
  isPositional : Int → Bool
  /-- what follows the digits of a whole number that is written positionally -/
  wholeSuffix : List Char
  exponentWidth : Nat
  infinity : String
  nan : String

namespace Notation

def plain : Notation where
  isPositional k := -4 ≤ k && k < 16
  wholeSuffix := ['.', '0']
  exponentWidth := 2
  infinity := "inf"
  nan := "nan"

/-- Digits with the point after the one that has power of ten 0. -/
def positional (n : Notation) (ds : List Char) (k : Int) : List Char :=
  if k < 0 then '0' :: '.' :: (List.replicate ((-k).toNat - 1) '0' ++ ds)
  else
    let before := k.toNat + 1
    if ds.length ≤ before then
      ds ++ List.replicate (before - ds.length) '0' ++ n.wholeSuffix
    else ds.take before ++ '.' :: ds.drop before

/-- One digit before the point, then the power of ten. -/
def scientific (n : Notation) (ds : List Char) (k : Int) : List Char :=
  let mantissa := match ds with
    | d :: rest@(_ :: _) => d :: '.' :: rest
    | _ => ds
  mantissa ++ 'e' :: (if k < 0 then '-' else '+') :: padZeros n.exponentWidth (digits k.natAbs)

def digitsText (n : Notation) (d : Digits) : List Char :=
  let ds := digits d.significand
  let k := d.exponent + ds.length - 1
  if d.significand = 0 then n.positional ['0'] 0
  else if n.isPositional k then n.positional ds k
  else n.scientific ds k

def text (n : Notation) (x : Float) : String :=
  match Double.form x with
  | .finite negative m =>
    String.ofList ((if negative then ['-'] else []) ++ n.digitsText (shortest m))
  | .infinite negative => if negative then "-" ++ n.infinity else n.infinity
  | .nan => n.nan

end Notation

end AlgebraDesk.Decimal

import AlgebraDesk.Decimal.Shortest

/-!
# Significant digits

A number is shown with a given count of significant digits by rounding its exact value to the
decimal grid that has this many digits, a half going to the even multiple.

* `significant`      the digits, as a number and the power of ten of the first of them;
* `scientificChars`  one digit before the point, a given count after it, and the power of ten;
* `generalChars`     positional where that is short, scientific elsewhere, without zeros at the end.

With `keepPoint` the point is written even when nothing follows it, and zeros at the end are kept.
-/

namespace AlgebraDesk.Decimal

open Double (Magnitude unitsPerOne)

/-- `count` is at least one.  A carry into one more digit moves the power of ten. -/
def significant (count : Nat) (m : Magnitude) : Nat × Int :=
  if m.isZero then (0, 0)
  else
    let top := tenExponent m
    let shift : Int := (count : Int) - 1 - top
    let n := roundHalfEven (m.units * tenTo shift.toNat) (unitsPerOne * tenTo (-shift).toNat)
    if n = tenTo count then (tenTo (count - 1), top + 1) else (n, top)

/-- The digits of `significant`, all of them. -/
def significantChars (count : Nat) (m : Magnitude) : List Char × Int :=
  let (n, top) := significant count m
  (padZeros count (digits n), top)

/-- The power of ten after a mantissa, with a sign and at least two digits. -/
def powerChars (top : Int) : List Char :=
  'e' :: (if top < 0 then '-' else '+') :: padZeros 2 (digits top.natAbs)

/-- The first digit, the point, and the other digits. -/
def mantissaChars (keepPoint : Bool) (ds : List Char) : List Char :=
  match ds with
  | [] => []
  | d :: rest => if rest.isEmpty && !keepPoint then [d] else d :: '.' :: rest

def scientificChars (keepPoint : Bool) (places : Nat) (m : Magnitude) : List Char :=
  let (ds, top) := significantChars (places + 1) m
  mantissaChars keepPoint ds ++ powerChars top

/-- Digits with the point after the one that has power of ten 0. -/
def placedChars (keepPoint : Bool) (ds : List Char) (top : Int) : List Char :=
  { Notation.plain with wholeSuffix := if keepPoint then ['.'] else [] }.positional ds top

def generalChars (keepPoint : Bool) (precision : Nat) (m : Magnitude) : List Char :=
  let count := max 1 precision
  let (ds, top) := significantChars count m
  let kept := if keepPoint then ds else
    match dropTrailingZeros ds with
    | [] => ['0']
    | ds => ds
  if -4 ≤ top && top < count then placedChars keepPoint kept top
  else mantissaChars keepPoint kept ++ powerChars top

end AlgebraDesk.Decimal

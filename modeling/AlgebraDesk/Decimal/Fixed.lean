import AlgebraDesk.Double.Basic

/-!
# Fixed places

A number is shown with a fixed count of decimal places by rounding its exact value to that decimal
grid, a half going to the even multiple.

* `fixedUnits`  the multiple of 10 ^ -places nearest to a magnitude;
* `wholePart`, `placesPart`  its digits before and after the point;
* `fixed`       the text of a double with all its places.
-/

namespace AlgebraDesk.Decimal

open Double (Magnitude unitsPerOne)

def fixedUnits (places : Nat) (m : Magnitude) : Nat :=
  roundHalfEven (m.units * tenTo places) unitsPerOne

/-- The decimal digits of a natural number. -/
def digits (n : Nat) : List Char := Nat.toDigits 10 n

/-- Zeros in front, up to a width. -/
def padZeros (width : Nat) (cs : List Char) : List Char :=
  List.replicate (width - cs.length) '0' ++ cs

def dropTrailingZeros (cs : List Char) : List Char := (cs.reverse.dropWhile (· == '0')).reverse

def wholePart (places units : Nat) : List Char := digits (units / tenTo places)

/-- Exactly `places` digits. -/
def placesPart (places units : Nat) : List Char :=
  if places = 0 then [] else padZeros places (digits (units % tenTo places))

def fixedChars (places units : Nat) : List Char :=
  if places = 0 then wholePart places units
  else wholePart places units ++ '.' :: placesPart places units

def fixed (places : Nat) (x : Float) : String :=
  match Double.form x with
  | .finite negative m =>
    String.ofList ((if negative then ['-'] else []) ++ fixedChars places (fixedUnits places m))
  | .infinite negative => if negative then "-inf" else "inf"
  | .nan => "nan"

end AlgebraDesk.Decimal

import AlgebraDesk.Decimal.Fixed

/-!
# Numbers as the desk shows them

A whole number is shown exactly, with all its digits and no point.  Any other number is rounded to
the display precision, and zeros at the end are dropped, with the point when nothing follows it.
There is no negative zero.

* `trimmedChars`  a multiple of 10 ^ -places without zeros at its end;
* `display`       the text of a double at a precision; a negative precision acts as 0.
-/

namespace AlgebraDesk.Decimal

open Double (Magnitude)

/-- A double has at most this many decimal places. -/
def maxPlaces : Nat := 1074

def trimmedChars (places units : Nat) : List Char :=
  match dropTrailingZeros (placesPart places units) with
  | [] => wholePart places units
  | frac => wholePart places units ++ '.' :: frac

/-- A minus sign, except before zero. -/
def signChars (negative : Bool) (units : Nat) : List Char :=
  if negative && units != 0 then ['-'] else []

def displayMagnitude (places : Nat) (negative : Bool) (m : Magnitude) : List Char :=
  if m.isWhole then signChars negative m.whole ++ digits m.whole
  else
    let units := fixedUnits places m
    signChars negative units ++ trimmedChars places units

def display (places : Int) (x : Float) : String :=
  match Double.form x with
  | .finite negative m =>
    String.ofList (displayMagnitude (min places.toNat maxPlaces) negative m)
  | .infinite negative => if negative then "-infinity" else "infinity"
  | .nan => "NaN"

end AlgebraDesk.Decimal

import AlgebraDesk.Decimal.Display
import AlgebraDesk.Polynomial.Display
import AlgebraDesk.Value.Access
import AlgebraDesk.Value.Notation
import AlgebraDesk.Value.Number

/-!
# Values as the desk shows them

A value that is a number, or a text that spells one, is shown as that number; any other value is
shown as it is.

* `display`            a value at the display precision;
* `displayAt`          the same with a precision that is itself a value;
* `displayPoint`       the first two parts of a value as a point;
* `coefficient`        a value as a coefficient with its text;
* `displayPolynomial`  three values as the coefficients of a polynomial.
-/

namespace AlgebraDesk.Value

def display (places : Int) (v : Value) : String :=
  match v.readReal with
  | .ok x => Decimal.display places x
  | .error _ => v.shown

/-- A number cannot be asked for more places than this. -/
def placesLimit : Int := 2147483647

/-- No precision means the usual one.  The precision is looked at only when it matters: for a finite
number that is not whole. -/
def displayAt (usual : Int) (precision v : Value) : Except Fault String :=
  match v.readReal with
  | .ok x =>
    if !x.isFinite || Double.isWhole x then .ok (Decimal.display usual x)
    else do
      let places ← match precision with
        | .null => .ok usual
        | _ => precision.readInteger
      if placesLimit < places then .error .badValue else .ok (Decimal.display places x)
  | .error _ => .ok v.shown

def displayPoint (places : Int) (v : Value) : Except Fault String := do
  let x ← v.element 0
  let y ← v.element 1
  .ok ("(" ++ x.display places ++ ", " ++ y.display places ++ ")")

/-- A double whose text is refused is no coefficient. -/
def coefficient (places : Int) (v : Value) : Except Fault Coefficient := do
  match ← v.asNumber with
  | .real x => (displayAt places .null (.real x.abs)).map fun _ => .ofReal places x
  | n => .ok (.ofNumber places n)

def displayPolynomial (places : Int) (a b c : Value) : Except Fault String := do
  let a ← a.coefficient places
  let b ← b.coefficient places
  let c ← c.coefficient places
  .ok (String.ofList (Polynomial.displayTerms a b c))

end AlgebraDesk.Value

import AlgebraDesk.Double.Complex
import AlgebraDesk.Symbolic.Term

/-!
# Values in complex doubles

A term is evaluated at a real point over the complex numbers: a root or a logarithm of a negative
number has its principal value.  A constant term has the same value at all points; it is its
estimate, unless the summands of a sum cancel and leave nothing but rounding errors.

* `Scalar.toDouble`    the double near a number;
* `Term.valueAt`       the value at a point;
* `Term.estimate?`     the value of a constant term, if it can be trusted.
-/

namespace AlgebraDesk.Symbolic

def Scalar.toDouble : Scalar → Float
  | .exact q => Double.nearest (q.num < 0) q.num.natAbs q.den
  | .decimal x => x.toDouble
  | .infinite negative => Double.ofCode negative Double.infinityCode
  | .undefined => Double.Complex.notANumber

def circleConstant : Float := 3.141592653589793

def eulerConstant : Float := 2.718281828459045

/-- Whole powers below this one are products. -/
def productBound : Float := 100

/-- A power; a root of order two and small whole powers are not taken through logarithms. -/
def complexPower (z w : Double.Complex) : Double.Complex :=
  if w.isReal && w.re == 0.5 then z.sqrt
  else if w.isReal && !z.isReal && Double.isWhole w.re && w.re.abs < productBound then
    let p := z.natPow w.re.abs.toUInt64.toNat
    if w.re < 0 then (Double.Complex.ofReal 1).div p else p
  else z.pow w

def complexFunction : Operator → Double.Complex → Double.Complex
  | .sin => Double.Complex.sin
  | .cos => Double.Complex.cos
  | .tan => Double.Complex.tan
  | .cot => fun z => (Double.Complex.ofReal 1).div z.tan
  | .sinh => Double.Complex.sinh
  | .cosh => Double.Complex.cosh
  | .tanh => Double.Complex.tanh
  | .exp => Double.Complex.exp
  | .log => Double.Complex.log
  | .abs => Double.Complex.abs
  | .realPart => fun z => .ofReal z.re

namespace Term

mutual

def valueAt (x : Float) : Term → Double.Complex
  | .number n => .ofReal n.toDouble
  | .pi => .ofReal circleConstant
  | .euler => .ofReal eulerConstant
  | .imaginary => ⟨0, 1⟩
  | .boundless => .undefined
  | .variable => .ofReal x
  | .power b e => complexPower (b.valueAt x) (e.valueAt x)
  | .product ts => (valuesAt x ts).foldl Double.Complex.mul (.ofReal 1)
  | .sum ts => (valuesAt x ts).foldl Double.Complex.add (.ofReal 0)
  | .apply f t => complexFunction f (t.valueAt x)

def valuesAt (x : Float) : List Term → List Double.Complex
  | [] => []
  | t :: ts => t.valueAt x :: valuesAt x ts

end

/-- A value smaller than this part of what it was summed from is a rounding error. -/
def trustedPart : Float := 1e-9

/-- The sum of the moduli of the summands. -/
def spread (t : Term) : Float :=
  (valuesAt Double.Complex.notANumber t.summands).foldl (fun s z => s + z.modulus) 0

/-- Nothing for a term with the variable, and for a sum whose summands cancel. -/
def estimate? (t : Term) : Option Double.Complex :=
  if !t.isConstant then none
  else
    let z := t.valueAt Double.Complex.notANumber
    if z.re.isNaN || z.im.isNaN || z.modulus ≤ trustedPart * t.spread then none else some z

/-- An imaginary part smaller than this part of the modulus is a rounding error. -/
def isRealEstimate (z : Double.Complex) : Bool := z.im == 0 || z.im.abs ≤ trustedPart * z.modulus

end Term

end AlgebraDesk.Symbolic

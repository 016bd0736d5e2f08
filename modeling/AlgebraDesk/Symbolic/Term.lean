import AlgebraDesk.Symbolic.Scalar

/-!
# Terms

A formula in one variable, as sums and products of any length, powers, and functions.  The
summands of a sum are not sums and the factors of a product are not products; both are sorted, with
a number in front, so that two sums of the same summands are the same term.

* `Operator`, `Term`    functions and terms;
* `Term.compare`        an order of all terms;
* `ofSummands`, `ofFactors`   a sum or product of sorted parts, without a shell around a single one;
* `summands`, `factors`, `coefficient`, `baseAndExponent`   the parts of a term;
* `scale`               a number times a term, summand by summand;
* `isConstant`          a term without the variable.
-/

namespace AlgebraDesk.Symbolic

inductive Operator where
  | sin | cos | tan | cot | sinh | cosh | tanh | exp | log | abs | realPart
  deriving DecidableEq, Repr

inductive Term where
  | number (n : Scalar)
  | pi
  | euler
  /-- the imaginary unit -/
  | imaginary
  /-- the value of a quotient by zero, an infinity without direction -/
  | boundless
  | variable
  | power (base exponent : Term)
  | product (factors : List Term)
  | sum (summands : List Term)
  | apply (f : Operator) (t : Term)
  deriving Repr

namespace Term

/-! ## order -/

def rank : Term → Nat
  | .number _ => 0
  | .euler => 1
  | .pi => 2
  | .imaginary => 3
  | .boundless => 4
  | .variable => 5
  | .power .. => 6
  | .product _ => 7
  | .sum _ => 8
  | .apply .. => 9

mutual

def compare : Term → Term → Ordering
  | .number m, .number n => m.compare n
  | .power b e, .power c f => (compare b c).then (compare e f)
  | .product ts, .product us => compareAll ts us
  | .sum ts, .sum us => compareAll ts us
  | .apply f t, .apply g u => (Ord.compare f.ctorIdx g.ctorIdx).then (compare t u)
  | t, u => Ord.compare t.rank u.rank

def compareAll : List Term → List Term → Ordering
  | [], [] => .eq
  | [], _ :: _ => .lt
  | _ :: _, [] => .gt
  | t :: ts, u :: us => (compare t u).then (compareAll ts us)

end

instance : BEq Term := ⟨fun t u => t.compare u == .eq⟩

def sorted (ts : List Term) : List Term := ts.mergeSort fun t u => t.compare u != .gt

/-! ## numbers -/

def ofInt (n : Int) : Term := .number (.ofInt n)

def ofRat (q : Rat) : Term := .number (.exact q)

def zero : Term := ofInt 0
def one : Term := ofInt 1
def minusOne : Term := ofInt (-1)
def half : Term := ofRat (1 / 2)
def undefined : Term := .number .undefined

def number? : Term → Option Scalar
  | .number n => some n
  | _ => none

def rational? (t : Term) : Option Rat := t.number?.bind Scalar.rational?

def integer? (t : Term) : Option Int := t.number?.bind Scalar.integer?

def isNumber (t : Term) : Bool := t.number?.isSome

def isZero (t : Term) : Bool := (t.number?.map Scalar.isZero).getD false

def isOne (t : Term) : Bool := (t.number?.map Scalar.isOne).getD false

def isUndefined (t : Term) : Bool := (t.number?.map (!·.isDefined)).getD false

/-! ## parts -/

def ofSummands : List Term → Term
  | [] => zero
  | [t] => t
  | ts => .sum ts

def ofFactors : List Term → Term
  | [] => one
  | [t] => t
  | ts => .product ts

def summands : Term → List Term
  | .sum ts => ts
  | t => [t]

def factors : Term → List Term
  | .product ts => ts
  | t => [t]

/-- A number and the rest of a product. -/
def coefficient : Term → Scalar × Term
  | .number n => if n.isZero then (.ofInt 1, .number n) else (n, one)
  | .product (.number n :: ts) => (n, ofFactors ts)
  | t => (.ofInt 1, t)

mutual

/-- A finite number other than zero times a term; a sum is multiplied summand by summand, but not
one that has a coefficient already. -/
def scale (c : Scalar) : Term → Term
  | .number n => .number (c.mul n)
  | .boundless => .boundless
  | .product (.number n :: ts) =>
    let k := c.mul n
    if k.isOne then ofFactors ts else .product (.number k :: ts)
  | .product ts => if c.isOne then .product ts else .product (.number c :: ts)
  | .sum ts => .sum (sorted (scaleAll c ts))
  | t => if c.isOne then t else .product [.number c, t]

def scaleAll (c : Scalar) : List Term → List Term
  | [] => []
  | t :: ts => scale c t :: scaleAll c ts

end

def negate (t : Term) : Term := t.scale (.ofInt (-1))

/-- A term as a power.  An exponential is a power of `e`, the imaginary unit a root of -1, and a
power of a unit fraction one of the whole number. -/
def baseAndExponent : Term → Term × Term
  | .power (.number (.exact q)) e =>
    if q.num = 1 ∧ q.den ≠ 1 then (ofInt q.den, e.negate) else (ofRat q, e)
  | .power b e => (b, e)
  | .apply .exp u => (.euler, u)
  | .imaginary => (minusOne, half)
  | t => (t, one)

/-! ## the variable -/

mutual

def isConstant : Term → Bool
  | .variable => false
  | .power b e => b.isConstant && e.isConstant
  | .product ts => allConstant ts
  | .sum ts => allConstant ts
  | .apply _ t => t.isConstant
  | _ => true

def allConstant : List Term → Bool
  | [] => true
  | t :: ts => t.isConstant && allConstant ts

end

end Term

end AlgebraDesk.Symbolic

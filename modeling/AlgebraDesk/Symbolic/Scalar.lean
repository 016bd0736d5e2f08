import AlgebraDesk.Floating.Elementary

/-!
# Numbers of a formula

The numbers that stand in a formula are fractions, which are exact, decimals, which are rounded to
their precision, and the two infinities.  An exact number meets a decimal at the decimal's
precision.  A result that is zero is the exact zero.

* `Scalar`          the numbers, and what is no number;
* `add`, `mul`, `neg`, `abs`, `quotient?`  arithmetic;
* `Scalar.compare`  an order of the forms, for sorting;
* `powInt`          a whole power of a number that is not zero.
-/

namespace AlgebraDesk.Symbolic

inductive Scalar where
  | exact (q : Rat)
  | decimal (x : Floating)
  | infinite (negative : Bool)
  | undefined
  deriving DecidableEq, Repr

namespace Scalar

def ofInt (n : Int) : Scalar := .exact n

def ofFloating (x : Floating) : Scalar := if x.isZero then .exact 0 else .decimal x

def isZero : Scalar → Bool
  | .exact q => q == 0
  | .decimal x => x.isZero
  | .infinite _ | .undefined => false

def isOne : Scalar → Bool
  | .exact q => q == 1
  | _ => false

def isNegative : Scalar → Bool
  | .exact q => q < 0
  | .decimal x => x.isNegative
  | .infinite negative => negative
  | .undefined => false

def isPositive (n : Scalar) : Bool :=
  match n with
  | .undefined => false
  | n => !n.isZero && !n.isNegative

def isFinite : Scalar → Bool
  | .exact _ | .decimal _ => true
  | .infinite _ | .undefined => false

def isDefined (n : Scalar) : Bool := n != .undefined

def rational? : Scalar → Option Rat
  | .exact q => some q
  | _ => none

def integer? : Scalar → Option Int
  | .exact q => if q.den = 1 then some q.num else none
  | _ => none

/-! ## arithmetic -/

def neg : Scalar → Scalar
  | .exact q => .exact (-q)
  | .decimal x => .decimal x.neg
  | .infinite negative => .infinite !negative
  | .undefined => .undefined

def abs (n : Scalar) : Scalar := if n.isNegative then n.neg else n

def add : Scalar → Scalar → Scalar
  | .undefined, _ | _, .undefined => .undefined
  | .infinite s, .infinite t => if s = t then .infinite s else .undefined
  | .infinite s, _ | _, .infinite s => .infinite s
  | .exact p, .exact q => .exact (p + q)
  | .exact p, .decimal y => ofFloating ((Floating.ofRat y.precision p).add y)
  | .decimal x, .exact q => ofFloating (x.add (Floating.ofRat x.precision q))
  | .decimal x, .decimal y => ofFloating (x.add y)

/-- An infinite number times another one: the sign, if there is one. -/
def mulInfinite (negative : Bool) (n : Scalar) : Scalar :=
  if n.isZero then .undefined else .infinite (negative != n.isNegative)

def mul : Scalar → Scalar → Scalar
  | .undefined, _ | _, .undefined => .undefined
  | .infinite s, n | n, .infinite s => mulInfinite s n
  | .exact p, .exact q => .exact (p * q)
  | .exact p, .decimal y => ofFloating ((Floating.ofRat y.precision p).mul y)
  | .decimal x, .exact q => ofFloating (x.mul (Floating.ofRat x.precision q))
  | .decimal x, .decimal y => ofFloating (x.mul y)

/-- A decimal divided by a number other than zero is rounded once. -/
def quotient? (m n : Scalar) : Option Scalar :=
  match m, n with
  | .decimal x, .decimal y => if y.isZero then none else some (ofFloating (x.div y))
  | .decimal x, .exact q =>
    if q == 0 then none else some (ofFloating (x.div (Floating.ofRat x.precision q)))
  | _, _ => none

/-- A whole power of a finite number other than zero. -/
def powInt (n : Scalar) (k : Int) : Scalar :=
  match n with
  | .exact q => .exact (if k < 0 then (q ^ k.natAbs)⁻¹ else q ^ k.natAbs)
  | .decimal x => ofFloating (x.powInt k)
  | n => n

/-! ## order -/

def compareRat (p q : Rat) : Ordering := if p < q then .lt else if q < p then .gt else .eq

def compareFloating (x y : Floating) : Ordering :=
  (Ord.compare x.exponent y.exponent).then
    ((Ord.compare x.mantissa y.mantissa).then (Ord.compare x.precision y.precision))

def rank : Scalar → Nat
  | .exact _ => 0
  | .decimal _ => 1
  | .infinite _ => 2
  | .undefined => 3

def compare : Scalar → Scalar → Ordering
  | .exact p, .exact q => compareRat p q
  | .decimal x, .decimal y => compareFloating x y
  | .infinite s, .infinite t => Ord.compare s.toNat t.toNat
  | m, n => Ord.compare m.rank n.rank

end Scalar

end AlgebraDesk.Symbolic

import AlgebraDesk.Plot.Failure
import AlgebraDesk.Plot.Formula

/-!
# The rule of a curve

A term becomes a rule that gives a double at each point.  The constants in it are worked out first.
Whole numbers stay whole as long as only whole numbers meet them; they must fit into a machine word
where a function takes them, and into a double where a double meets them.  Numbers that no function
has touched are plain: their powers must stay in range.  A rule is either real, and then a root or
a logarithm of a negative number has no value, or complex.

* `Amount`          a real or complex value;
* `Quantity`        a constant: a whole number, a plain double, or an amount;
* `Rule`, `Part`    how the value at a point is found; a constant or a rule;
* `obstacle?`       what cannot be written down in a term;
* `Rule.ofTerm`     the rule of a term;
* `Rule.valueAt`, `realAt`  the value at a point.
-/

namespace AlgebraDesk.Plot

open Symbolic (Term Scalar Operator)

/-! ## amounts -/

inductive Amount where
  | real (x : Float)
  | complex (z : Double.Complex)

namespace Amount

def toComplex : Amount → Double.Complex
  | .real x => .ofReal x
  | .complex z => z

def neg : Amount → Amount
  | .real x => .real (-x)
  | .complex z => .complex ⟨-z.re, -z.im⟩

def productOf (z w : Double.Complex) : Double.Complex :=
  ⟨z.re * w.re - z.im * w.im, z.re * w.im + z.im * w.re⟩

/-- The larger part of the divisor is divided by, so that nothing overflows on the way. -/
def quotientOf (z w : Double.Complex) : Double.Complex :=
  if w.isZero then ⟨z.re / w.re.abs, z.im / w.re.abs⟩
  else if w.im.abs ≤ w.re.abs then
    let ratio := w.im / w.re
    let scale := 1 / (w.re + w.im * ratio)
    ⟨(z.re + z.im * ratio) * scale, (z.im - z.re * ratio) * scale⟩
  else
    let ratio := w.re / w.im
    let scale := 1 / (w.im + w.re * ratio)
    ⟨(z.re * ratio + z.im) * scale, (z.im * ratio - z.re) * scale⟩

def powerOf (z w : Double.Complex) : Double.Complex :=
  if w.isReal && Double.isWhole w.re && w.re.abs < Symbolic.productBound then
    let p := z.natPow w.re.abs.toUInt64.toNat
    if w.re < 0 then quotientOf (.ofReal 1) p else p
  else z.pow w

def combine (op : Operation) (a b : Amount) : Amount :=
  match op, a, b with
  | .add, .real x, .real y => .real (x + y)
  | .sub, .real x, .real y => .real (x - y)
  | .mul, .real x, .real y => .real (x * y)
  | .div, .real x, .real y => .real (x / y)
  | .pow, .real x, .real y => .real (x.pow y)
  | op, a, b =>
    let z := a.toComplex
    let w := b.toComplex
    .complex (match op with
      | .add => z.add w
      | .sub => z.sub w
      | .mul => productOf z w
      | .div => quotientOf z w
      | .pow => powerOf z w)

def realFunction : Operator → Float → Float
  | .sin => Float.sin
  | .cos => Float.cos
  | .tan => Float.tan
  | .cot => fun x => 1 / x.tan
  | .sinh => Float.sinh
  | .cosh => Float.cosh
  | .tanh => Float.tanh
  | .exp => Float.exp
  | .log => Float.log
  | .abs => Float.abs
  | .realPart => id

def apply (f : Operator) (a : Amount) : Amount :=
  match f, a with
  | f, .real x => .real (realFunction f x)
  | .abs, .complex z => .real z.modulus
  | .realPart, .complex z => .real z.re
  | f, .complex z => .complex (Symbolic.complexFunction f z)

def root : Amount → Amount
  | .real x => .real x.sqrt
  | .complex z => .complex z.sqrt

end Amount

/-! ## constants -/

inductive Quantity where
  | whole (n : Int)
  | plain (x : Float)
  | amount (a : Amount)

namespace Quantity

def toDouble (n : Int) : Except Mishap Float :=
  match Double.ofInt? n with
  | some x => .ok x
  | none => .error .hugeInteger

def toAmount : Quantity → Except Mishap Amount
  | .whole n => (toDouble n).map .real
  | .plain x => .ok (.real x)
  | .amount a => .ok a

/-- The double of a number that no function has touched. -/
def plain? : Quantity → Option (Except Mishap Float)
  | .whole n => some (toDouble n)
  | .plain x => some (.ok x)
  | .amount _ => none

def neg : Quantity → Quantity
  | .whole n => .whole (-n)
  | .plain x => .plain (-x)
  | .amount a => .amount a.neg

def plainQuotient (x y : Float) : Except Mishap Quantity :=
  if y == 0 then .error .noWidth else .ok (.plain (x / y))

/-- A power of plain numbers; one of a negative number is complex unless the exponent is whole. -/
def plainPower (x y : Float) : Except Mishap Quantity :=
  if x == 0 && y < 0 then .error .zeroPower
  else if x < 0 && !Double.isWhole y && x.isFinite && y.isFinite then
    .ok (.amount (.complex ((Double.Complex.ofReal x).pow (.ofReal y))))
  else
    let r := x.pow y
    if x.isFinite && y.isFinite && !r.isFinite then .error .hugePower else .ok (.plain r)

def plainOperation (op : Operation) (x y : Float) : Except Mishap Quantity :=
  match op with
  | .add => .ok (.plain (x + y))
  | .sub => .ok (.plain (x - y))
  | .mul => .ok (.plain (x * y))
  | .div => plainQuotient x y
  | .pow => plainPower x y

def wholeQuotient (m n : Int) : Except Mishap Quantity :=
  if n = 0 then .error .noWidth
  else match Double.quotient? m n with
    | some x => .ok (.plain x)
    | none => .error .hugeQuotient

def combine (op : Operation) (a b : Quantity) : Except Mishap Quantity :=
  match op, a, b with
  | .add, .whole m, .whole n => .ok (.whole (m + n))
  | .sub, .whole m, .whole n => .ok (.whole (m - n))
  | .mul, .whole m, .whole n => .ok (.whole (m * n))
  | .div, .whole m, .whole n => wholeQuotient m n
  | op, a, b =>
    match a.plain?, b.plain? with
    | some x, some y => do plainOperation op (← x) (← y)
    | _, _ => do return .amount ((← a.toAmount).combine op (← b.toAmount))

/-- The whole numbers that a machine word holds, with or without sign. -/
def fitsWord (n : Int) : Bool := -(Decimal.twoTo 63 : Int) ≤ n && n < Decimal.twoTo 64

def functionName : Operator → String
  | .sin => "sin"
  | .cos => "cos"
  | .tan | .cot => "tan"
  | .sinh => "sinh"
  | .cosh => "cosh"
  | .tanh => "tanh"
  | .exp => "exp"
  | .log => "log"
  | .abs => "absolute"
  | .realPart => "real"

/-- An amount for a function with this name. -/
def argument (name : String) (a : Quantity) : Except Mishap Amount :=
  match a with
  | .whole n => if fitsWord n then a.toAmount else .error (.noWord name)
  | a => a.toAmount

/-- An absolute value leaves whole and plain numbers what they are. -/
def apply (f : Operator) (a : Quantity) : Except Mishap Quantity :=
  match f, a with
  | .abs, .whole n => .ok (.whole n.natAbs)
  | .abs, .plain x => .ok (.plain x.abs)
  | f, a => do return .amount ((← a.argument (functionName f)).apply f)

def root (a : Quantity) : Except Mishap Quantity := do
  return .amount (← a.argument "sqrt").root

end Quantity

/-! ## rules -/

inductive Rule where
  | amount (a : Amount)
  | variable
  | neg (r : Rule)
  | root (r : Rule)
  | combine (op : Operation) (left right : Rule)
  | apply (f : Operator) (r : Rule)
  /-- the real part of a term, which is evaluated over the complex numbers -/
  | realPart (t : Term)

inductive Part where
  | constant (q : Quantity)
  | varying (r : Rule)

namespace Part

def toRule : Part → Except Mishap Rule
  | .constant q => q.toAmount.map .amount
  | .varying r => .ok r

def combine (op : Operation) (p q : Part) : Except Mishap Part :=
  match p, q with
  | .constant a, .constant b => (a.combine op b).map .constant
  | p, q => do return .varying (.combine op (← p.toRule) (← q.toRule))

def neg : Part → Part
  | .constant q => .constant q.neg
  | .varying r => .varying (.neg r)

def root : Part → Except Mishap Part
  | .constant q => q.root.map .constant
  | .varying r => .ok (.varying (.root r))

def apply (f : Operator) : Part → Except Mishap Part
  | .constant q => (q.apply f).map .constant
  | .varying r => .ok (.varying (.apply f r))

def whole (n : Int) : Part := .constant (.whole n)

/-- A fraction is a quotient of whole numbers. -/
def fraction (q : Rat) : Except Mishap Part :=
  if q.den = 1 then .ok (whole q.num) else (Quantity.wholeQuotient q.num q.den).map .constant

def scalar : Scalar → Except Mishap Part
  | .exact q => fraction q
  | n => .ok (.constant (.plain n.toDouble))

/-- A power with a fraction as exponent.  A negative whole exponent enters as a double. -/
def rationalPower (p : Part) (q : Rat) : Except Mishap Part :=
  if q == 1 / 2 then p.root
  else if q == -1 / 2 then do combine .div (whole 1) (← p.root)
  else if q.den = 1 ∧ q < 0 then
    combine .pow p (.constant (.plain (Scalar.exact q).toDouble))
  else do combine .pow p (← fraction q)

/-- All parts from the left; no part is one. -/
def product : List Part → Except Mishap Part
  | [] => .ok (whole 1)
  | p :: ps => ps.foldlM (combine .mul) p

def total : List Part → Except Mishap Part
  | [] => .ok (whole 0)
  | p :: ps => ps.foldlM (combine .add) p

/-- A fraction bar, with a sign in front. -/
def quotient (negative : Bool) (above below : List Part) : Except Mishap Part := do
  let above := match above with
    | [] => [whole 1]
    | ps => ps
  let above := match above with
    | p :: ps => (if negative then p.neg else p) :: ps
    | [] => []
  let n ← product above
  if below.isEmpty then return n else combine .div n (← product below)

end Part

/-! ## from terms -/

/-- Integers with more digits are not written down. -/
def isLong (n : Int) : Bool := Decimal.tenTo Decimal.maxIntegerDigits ≤ n.natAbs

mutual

/-- The first part of a term that cannot be written down. -/
def obstacle? : Term → Option Mishap
  | .number (.exact q) => if isLong q.num || isLong q.den then some .manyDigits else none
  | .boundless => some .boundless
  | .power b e => (obstacle? b).or (obstacle? e)
  | .product ts => obstacleIn? ts
  | .sum ts => obstacleIn? ts
  | .apply _ t => obstacle? t
  | _ => none

def obstacleIn? : List Term → Option Mishap
  | [] => none
  | t :: ts => (obstacle? t).or (obstacleIn? ts)

end

/-- A factor with a negative exponent stands below the fraction bar. -/
def belowBar? (e : Term) : Option Rat := e.rational?.bind fun q => if q < 0 then some (-q) else none

/-- A number in front of a product is written without its sign, and one not at all. -/
def frontParts (ts : List Term) : Bool × Bool :=
  match ts with
  | .number n :: _ => (n.isNegative, n.abs.isOne)
  | _ => (false, false)

mutual

def partOf : Term → Except Mishap Part
  | .number n => Part.scalar n
  | .pi => .ok (.constant (.plain Symbolic.circleConstant))
  | .euler => .ok (.constant (.plain Symbolic.eulerConstant))
  | .imaginary => .ok (.constant (.amount (.complex ⟨0, 1⟩)))
  | .boundless => .error .boundless
  | .variable => .ok (.varying .variable)
  | .power b e => do
    let p ← partOf b
    match e.rational? with
    | some q => p.rationalPower q
    | none => Part.combine .pow p (← partOf e)
  | .product ts => do
    let (negative, isOne) := frontParts ts
    let (above, below) ← factorParts (negative || isOne) ts
    Part.quotient negative (if isOne then above.drop 1 else above) below
  | .sum ts => do
    let ps ← partsOf ts
    Part.total (match ts, ps with
      | .number _ :: _, p :: ps => ps ++ [p]
      | _, ps => ps)
  | .apply .realPart t => .ok (.varying (.realPart t))
  | .apply .cot t => do Part.combine .div (.whole 1) (← (← partOf t).apply .tan)
  | .apply f t => do (← partOf t).apply f

/-- The factors above and below the bar; `unsigned` numbers are taken without their sign. -/
def factorParts (unsigned : Bool) : List Term → Except Mishap (List Part × List Part)
  | [] => .ok ([], [])
  | .number n :: ts => do
    let p ← Part.scalar (if unsigned then n.abs else n)
    let (above, below) ← factorParts unsigned ts
    return (p :: above, below)
  | .power b e :: ts => do
    let p ← partOf b
    match belowBar? e with
    | some q =>
      let p ← if q == 1 then .ok p else p.rationalPower q
      let (above, below) ← factorParts unsigned ts
      return (above, p :: below)
    | none =>
      let p ← match e.rational? with
        | some q => p.rationalPower q
        | none => do Part.combine .pow p (← partOf e)
      let (above, below) ← factorParts unsigned ts
      return (p :: above, below)
  | t :: ts => do
    let p ← partOf t
    let (above, below) ← factorParts unsigned ts
    return (p :: above, below)

def partsOf : List Term → Except Mishap (List Part)
  | [] => .ok []
  | t :: ts => do
    let p ← partOf t
    return p :: (← partsOf ts)

end

namespace Rule

def ofTerm (t : Term) : Except Mishap Rule := do (← partOf t).toRule

/-! ## values -/

/-- The value at a point. -/
def valueAt (r : Rule) (x : Float) : Amount :=
  match r with
  | .amount a => a
  | .variable => .real x
  | .neg r => (r.valueAt x).neg
  | .root r => (r.valueAt x).root
  | .combine op l r => (l.valueAt x).combine op (r.valueAt x)
  | .apply f r => (r.valueAt x).apply f
  | .realPart t => .real (t.valueAt x).re

/-- Imaginary parts below this are rounding errors. -/
def imaginaryTolerance : Float := 1e-12

/-- The value at a point, not a number when it is not real. -/
def realAt (r : Rule) (x : Float) : Float :=
  match r.valueAt x with
  | .real y => y
  | .complex z => if z.im.abs < imaginaryTolerance then z.re else Double.Complex.notANumber

end Rule

end AlgebraDesk.Plot

import AlgebraDesk.Symbolic.Estimate

/-!
# What is known about a term

Some rules hold for real or for positive numbers only.  The variable may stand for any complex
number; so nothing is known about most terms with it, but an absolute value is not negative and an
exponential is not zero.  A sum of constants has the sign of its estimate.

* `Sign`, `Nature`   whether a term is real, and where it then lies;
* `Term.nature`      what is known about a term;
* `isReal`, `isNotReal`, `isPositive`, `isNegative`, `isNonnegative`, `isNonzero`  parts of it;
* `isFinite`, `isUnbounded`  whether a term is known to be finite, or not to be.
-/

namespace AlgebraDesk.Symbolic

/-- Where a real number lies; `any` when that is not known. -/
inductive Sign where
  | negative | zero | positive | nonnegative | nonpositive | any
  deriving DecidableEq, Repr

namespace Sign

def neg : Sign → Sign
  | .negative => .positive
  | .positive => .negative
  | .nonnegative => .nonpositive
  | .nonpositive => .nonnegative
  | s => s

def mul : Sign → Sign → Sign
  | .zero, _ | _, .zero => .zero
  | .any, _ | _, .any => .any
  | .positive, s | s, .positive => s
  | .negative, s | s, .negative => s.neg
  | .nonnegative, s | s, .nonnegative => s
  | .nonpositive, .nonpositive => .nonnegative

def add : Sign → Sign → Sign
  | .zero, s | s, .zero => s
  | .positive, .positive | .positive, .nonnegative | .nonnegative, .positive => .positive
  | .negative, .negative | .negative, .nonpositive | .nonpositive, .negative => .negative
  | .nonnegative, .nonnegative => .nonnegative
  | .nonpositive, .nonpositive => .nonpositive
  | _, _ => .any

def ofFloat (x : Float) : Sign := if x < 0 then .negative else if x > 0 then .positive else .any

end Sign

/-- `real` is unknown when there is none; without `real := some true` there is no sign. -/
structure Nature where
  real : Option Bool
  sign : Sign
  deriving DecidableEq, Repr

namespace Nature

def unknown : Nature := ⟨none, .any⟩
def notReal : Nature := ⟨some false, .any⟩
def ofSign (s : Sign) : Nature := ⟨some true, s⟩

def ofEstimate (z : Double.Complex) : Nature :=
  if Term.isRealEstimate z then ofSign (.ofFloat z.re) else notReal

def ofScalar : Scalar → Nature
  | .undefined => unknown
  | n =>
    ofSign (if n.isZero then .zero else if n.isNegative then .negative else .positive)

/-- One part that is not real makes a sum of real ones not real; two may cancel. -/
def add (a b : Nature) : Nature :=
  match a.real, b.real with
  | some true, some true => ofSign (a.sign.add b.sign)
  | some true, some false | some false, some true => notReal
  | _, _ => unknown

/-- As for a sum, but the real part must not be zero. -/
def mul (a b : Nature) : Nature :=
  match a.real, b.real with
  | some true, some true => ofSign (a.sign.mul b.sign)
  | some true, some false =>
    if a.sign = .positive ∨ a.sign = .negative then notReal else unknown
  | some false, some true =>
    if b.sign = .positive ∨ b.sign = .negative then notReal else unknown
  | _, _ => unknown

/-- The sign of a whole power. -/
def powInt (s : Sign) (k : Int) : Sign :=
  if k % 2 = 0 then
    match s with
    | .positive | .negative => .positive
    | _ => .nonnegative
  else s

/-- A power of a number that is known to be real, with a real exponent. -/
def pow (base exponent : Nature) (k? : Option Scalar) : Nature :=
  match base.real, exponent.real with
  | some true, some true =>
    match base.sign, k?.bind Scalar.integer?, k?.bind Scalar.rational? with
    | .positive, _, _ => ofSign .positive
    | s, some k, _ =>
      if 0 ≤ k ∨ s = .negative then ofSign (powInt s k) else unknown
    | .nonnegative, none, _ =>
      match exponent.sign with
      | .positive | .nonnegative => ofSign .nonnegative
      | _ => unknown
    | .negative, none, some _ => notReal
    | _, _, _ => unknown
  | _, _ => unknown

/-- A function of a real number. -/
def ofFunction (f : Operator) (a : Nature) : Nature :=
  match f with
  | .abs => ofSign (if a.sign = .positive ∨ a.sign = .negative then .positive else .nonnegative)
  | .realPart => ofSign .any
  | .exp | .cosh => if a.real = some true then ofSign .positive else unknown
  | .sinh | .tanh => if a.real = some true then ofSign a.sign else unknown
  | .sin | .cos | .tan | .cot => if a.real = some true then ofSign .any else unknown
  | .log => if a.sign = .positive then ofSign .any else unknown

end Nature

namespace Term

/-- What a constant term's estimate tells beyond its parts. -/
def refine (t : Term) (n : Nature) : Nature :=
  if n.real = some true ∧ n.sign ≠ .any then n
  else match t.estimate? with
    | some z => if n.real = some true then Nature.ofSign (.ofFloat z.re) else Nature.ofEstimate z
    | none => n

mutual

def nature : Term → Nature
  | .number n => .ofScalar n
  | .pi | .euler => .ofSign .positive
  | .imaginary | .boundless => .notReal
  | .variable => .unknown
  | .power b e => refine (.power b e) (Nature.pow b.nature e.nature e.number?)
  | .product ts => refine (.product ts) (productNature ts)
  | .sum ts => refine (.sum ts) (sumNature ts)
  | .apply f t => refine (.apply f t) (Nature.ofFunction f t.nature)

def productNature : List Term → Nature
  | [] => .ofSign .positive
  | t :: ts => t.nature.mul (productNature ts)

def sumNature : List Term → Nature
  | [] => .ofSign .zero
  | t :: ts => t.nature.add (sumNature ts)

end

def isReal (t : Term) : Bool := t.nature.real == some true
def isNotReal (t : Term) : Bool := t.nature.real == some false
def isPositive (t : Term) : Bool := t.nature.sign == .positive
def isNegative (t : Term) : Bool := t.nature.sign == .negative

def isNonnegative (t : Term) : Bool :=
  match t.nature.sign with
  | .positive | .nonnegative | .zero => true
  | _ => false

def isNonpositive (t : Term) : Bool :=
  match t.nature.sign with
  | .negative | .nonpositive | .zero => true
  | _ => false

/-- Known not to be negative: also a number that is not real. -/
def isNotNegative (t : Term) : Bool := t.isNonnegative || t.isNotReal

mutual

def isNonzero : Term → Bool
  | .number n => !n.isZero && n.isDefined
  | .pi | .euler | .imaginary | .boundless => true
  | .variable => false
  | .power b e => b.isNonzero || (Term.power b e).isNotReal || (Term.power b e).isPositive
  | .product ts => allNonzero ts
  | .sum ts => (Term.sum ts).isPositive || (Term.sum ts).isNegative || (Term.sum ts).isNotReal
  | .apply .exp _ => true
  | .apply f t =>
    (Term.apply f t).isPositive || (Term.apply f t).isNegative || (Term.apply f t).isNotReal

def allNonzero : List Term → Bool
  | [] => true
  | t :: ts => t.isNonzero && allNonzero ts

end

mutual

/-- No infinity in it, and no variable. -/
def isFinite : Term → Bool
  | .number n => n.isFinite
  | .boundless | .variable => false
  | .power b e => b.isFinite && e.isFinite
  | .product ts => allFinite ts
  | .sum ts => allFinite ts
  | .apply _ t => t.isFinite
  | _ => true

def allFinite : List Term → Bool
  | [] => true
  | t :: ts => t.isFinite && allFinite ts

end

def isUnbounded : Term → Bool
  | .number (.infinite _) | .boundless => true
  | _ => false

/-- A real multiple of the imaginary unit: the factor, for a constant term. -/
def imaginaryPart? : Term → Option Term
  | .imaginary => some one
  | .product ts =>
    let rest := ts.filter (· != .imaginary)
    if rest.length + 1 = ts.length && rest.all isReal then some (ofFactors rest) else none
  | _ => none

end Term

end AlgebraDesk.Symbolic

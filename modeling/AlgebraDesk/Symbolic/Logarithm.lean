import AlgebraDesk.Symbolic.Angle

/-!
# Logarithms and absolute values

A logarithm of zero is boundless, one of a negative number has the imaginary part π, and one of an
exponential with a real exponent undoes it.  An absolute value is taken factor by factor; of an
exponential it is the exponential of the real part.

* `Term.logarithm`   the principal logarithm;
* `Term.realPart`    the real part, where rules tell it;
* `Term.absolute`    the absolute value.
-/

namespace AlgebraDesk.Symbolic

open Term

/-! ## logarithms -/

/-- A quarter turn up or down, as an imaginary number. -/
def quarterTurn (negative : Bool) : Term :=
  .product [.ofRat (if negative then -1 / 2 else 1 / 2), .pi, .imaginary]

def halfTurn : Term := .product [.pi, .imaginary]

/-- A fractional multiple of the imaginary unit. -/
def imaginaryFraction? (t : Term) : Option Rat :=
  match t.coefficient with
  | (.exact q, .imaginary) => some q
  | _ => none

/-- Of a positive number. -/
def logPositive (n : Scalar) : Term :=
  match n with
  | .exact q =>
    if q == 1 then zero
    else if q.num = 1 then (Term.apply .log (.ofInt q.den)).negate
    else .apply .log (.number n)
  | .decimal x => if x.isModerate then ofDecimal Floating.log x else .apply .log (.number n)
  | n => .number n

namespace Term

def logarithm (t : Term) : Term :=
  match t with
  | .number .undefined => .undefined
  | .number (.infinite _) => .number (.infinite false)
  | .number n =>
    if n.isZero then .boundless
    else if n.isNegative then sumOf [logPositive n.abs, halfTurn]
    else logPositive n
  | .boundless => .boundless
  | .euler => one
  | .apply .exp u => if u.isReal then u else .apply .log t
  | t =>
    if t.isConstant && t.isNegative then sumOf [.apply .log t.negate, halfTurn]
    else match imaginaryFraction? t with
      | some q => sumOf [quarterTurn (q < 0), logPositive (.exact (if q < 0 then -q else q))]
      | none => .apply .log t

/-! ## real parts -/

/-- Real summands are kept and imaginary ones left out. -/
def realPart (t : Term) : Term :=
  let isImaginary (u : Term) : Bool := (imaginaryPart? u).isSome
  let (known, rest) := t.summands.partition fun u => u.isReal || isImaginary u
  let real := known.filter fun u => !isImaginary u
  match rest with
  | [] => sumOf real
  | rest => sumOf (real ++ [.apply .realPart (.ofSummands rest)])

/-! ## absolute values -/

/-- The modulus of a sum of real and imaginary constants. -/
def modulus? (ts : List Term) : Option Term :=
  let imaginary := ts.filterMap imaginaryPart?
  let real := ts.filter fun u => (imaginaryPart? u).isNone
  if imaginary.isEmpty || !real.all fun u => u.isConstant && u.isReal then none
  else
    let square (u : Term) : Term := u.pow (ofInt 2)
    some (sumOf [square (sumOf real), square (sumOf imaginary)]).squareRoot

/-- A factor in a denominator. -/
def isInverse : Term → Bool
  | .power _ e => (e.number?.map Scalar.isNegative).getD false
  | _ => false

/-- Of a term that is neither a product nor a quotient. -/
def absoluteFactor (t : Term) : Term :=
  match t with
  | .number n => if n.isDefined then .number n.abs else t
  | .boundless => .number (.infinite false)
  | .imaginary => one
  | .apply .exp u => u.realPart.exponential
  | .power b e =>
    if b.isReal && e.integer?.isSome then
      if (e.integer?.map fun n => n % 2 == 0).getD false then t
      else (Term.apply .abs b).pow e
    else if b.isReal && b.isNonnegative then b.pow e.realPart
    else if b.isConstant then (productOf [e, b.logarithm]).realPart.exponential
    else .apply .abs t
  | .sum ts =>
    if t.isNonnegative then t
    else if t.isReal && t.isNonpositive then t.negate
    else match modulus? ts with
      | some u => u
      | none => .apply .abs (if t.prefersNegative then t.negate else t)
  | t => if t.isNonnegative then t else if t.isNonpositive then t.negate else .apply .abs t

/-- An inverse whole power is the inverse of the absolute value. -/
def absoluteInverse (t : Term) : Term :=
  match t with
  | .power b e => if e.integer?.isSome then (absoluteFactor (b.pow e.negate)).pow minusOne
    else absoluteFactor t
  | t => absoluteFactor t

def isAbsolute : Term → Bool
  | .apply .abs _ => true
  | _ => false

/-- Factors whose absolute value is known are taken out; the others stay together. -/
def absoluteProduct (ts : List Term) : Term :=
  let values := ts.map fun t => (t, if t.isInverse then absoluteInverse t else absoluteFactor t)
  let stays (p : Term × Term) : Bool :=
    isAbsolute p.2 || (match p.2 with
      | .power b _ => isAbsolute b
      | _ => false)
  let known := (values.filter fun p => !stays p).map (·.2)
  let rest := (values.filter stays).map (·.1)
  productOf (known ++ if rest.isEmpty then [] else [.apply .abs (.ofFactors rest)])

/-- A quotient of a constant by a term is taken part by part. -/
def absolute (t : Term) : Term :=
  let (above, below) := t.factors.partition fun u => !u.isInverse
  if !below.isEmpty && above.all isConstant && !(below.all isConstant) then
    let divisor := productOf (below.map fun u => u.pow minusOne)
    let absoluteOf (u : Term) : Term := match u with
      | .product ts => absoluteProduct ts
      | u => absoluteFactor u
    divide (absoluteOf (productOf above)) (absoluteOf divisor)
  else match t with
    | .product ts => absoluteProduct ts
    | t => if t.isInverse then absoluteInverse t else absoluteFactor t

end Term

end AlgebraDesk.Symbolic

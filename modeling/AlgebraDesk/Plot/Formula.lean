import AlgebraDesk.Decimal.Significant
import AlgebraDesk.Plot.Expression
import AlgebraDesk.Symbolic.Logarithm
import AlgebraDesk.Value.Number

/-!
# The term of a graph expression

A graph expression stands for a term: its operations are carried out by the rules of terms, from the
inside out, so that what cancels is gone before any value is computed.  A number without a point and
without a power of ten is exact; any other one is a decimal with as many digits as are written, and
with fifteen at least.

* `numeralDigits`       the count of digits that a number is good for;
* `Expression.term`     the term of an expression;
* `magnitudeFraction`   the fraction that a double stands for as a coefficient;
* `quadraticTerm`       the term of `a*x^2 + b*x + c`.
-/

namespace AlgebraDesk.Plot

open Decimal (Digits digits roundHalfEven significant tenTo twoTo)
open Symbolic (Term Scalar)

def leastDigits : Nat := 15

def numeralDigits (d : Digits) (spelling : Spelling) : Nat :=
  let written := (digits d.significand).length
  let length := match spelling with
    | .scaled => max written ((scaledLength? d).getD 0)
    | .whole | .pointed => written
  max leastDigits length

def numeralScalar (d : Digits) (spelling : Spelling) : Scalar :=
  match spelling with
  | .whole => .ofInt (d.significand : Int)
  | spelling =>
    .decimal (Floating.ofDigits (Floating.bitsForDigits (numeralDigits d spelling)) d)

def constantTerm : Constant → Term
  | .pi => .pi
  | .e => .euler
  | .i => .imaginary

def functionTerm : Function → Term → Term
  | .sin => Term.sine
  | .cos => Term.cosine
  | .tan => Term.tangent
  | .exp => Term.exponential
  | .log => Term.logarithm
  | .sqrt => Term.squareRoot
  | .abs => Term.absolute

def negatedTerm (t : Term) : Term := Term.mul .minusOne t

def operationTerm (op : Operation) (t u : Term) : Term :=
  match op with
  | .add => .sumOf [t, u]
  | .sub => .sumOf [t, negatedTerm u]
  | .mul => t.mul u
  | .div => t.divide u
  | .pow => t.pow u

/-- A name other than `x` has no value. -/
def Expression.term : Expression → Term
  | .numeral d spelling => .number (numeralScalar d spelling)
  | .constant k => constantTerm k
  | .variable => .variable
  | .symbol _ => .undefined
  | .neg e => negatedTerm e.term
  | .combine op l r => operationTerm op l.term r.term
  | .apply f e => functionTerm f e.term

/-! ## quadratics -/

/-- Numerator and denominator of a simple fraction are below this. -/
def simpleBound : Nat := 1000

/-- Digits to which a double is trusted. -/
def trustedDigits : Nat := 15

/-- A positive fraction with this denominator so near to `num / den` that both pass for one. -/
def fractionOver? (num den q : Nat) : Option Rat :=
  let p := roundHalfEven (q * num) den
  let gap := ((q * num : Nat) - (p * den : Nat) : Int).natAbs * tenTo trustedDigits
  if 0 < p ∧ p < simpleBound ∧ gap * gap < num * num + den * den then some (mkRat p q) else none

def simpleFraction? (num den : Nat) : Option Rat :=
  (List.range simpleBound).tail.findSome? (fractionOver? num den)

def significantFraction (m : Double.Magnitude) : Rat :=
  let (n, top) := significant trustedDigits m
  let (num, den) := Digits.ratio ⟨n, top + 1 - trustedDigits⟩
  mkRat num den

/-- Doubles up to this tell all whole numbers apart. -/
def lastWhole : Nat := twoTo 53

/-- A double stands for the whole number that it is, for a simple fraction near it, or for its first
digits. -/
def magnitudeFraction (m : Double.Magnitude) : Rat :=
  if m.isWhole && m.whole ≤ lastWhole then (m.whole : Int)
  else (simpleFraction? m.units Double.unitsPerOne).getD (significantFraction m)

def coefficientTerm : Number → Term
  | .int n => .ofInt n
  | .real x =>
    match Double.form x with
    | .finite negative m =>
      .ofRat (if negative then -magnitudeFraction m else magnitudeFraction m)
    | .infinite negative => .number (.infinite negative)
    | .nan => .undefined

def quadraticTerm (a b c : Number) : Term :=
  .sumOf [.sumOf [(coefficientTerm a).mul (Term.variable.pow (.ofInt 2)),
    (coefficientTerm b).mul .variable], coefficientTerm c]

end AlgebraDesk.Plot

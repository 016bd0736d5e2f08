import AlgebraDesk.Symbolic.Nature

/-!
# Sums

Equal summands are collected, whatever their coefficients, and numbers are added up.  Summands that
cancel are gone, also where they have no value.  Infinity takes in all that is known to be finite;
two infinities that may differ leave nothing that is defined.

* `Collected`        the numbers of a sum, and its other summands with their coefficients;
* `Collected.push`   one more summand;
* `Term.sumOf`       the sum of some terms.
-/

namespace AlgebraDesk.Symbolic

/-- `constant` is a number or boundless, and undefined when the whole sum is. -/
structure Collected where
  constant : Term
  terms : List (Term × Scalar)

namespace Collected

def addConstant (a b : Term) : Term :=
  match a, b with
  | .number m, .number n => .number (m.add n)
  | .boundless, .boundless => .undefined
  | .boundless, .number n | .number n, .boundless => if n.isFinite then .boundless else .undefined
  | a, _ => a

def addTerm (t : Term) (c : Scalar) : List (Term × Scalar) → List (Term × Scalar)
  | [] => [(t, c)]
  | (u, d) :: rest => if u == t then (u, d.add c) :: rest else (u, d) :: addTerm t c rest

def push (s : Collected) (t : Term) : Collected :=
  match t with
  | .number _ | .boundless => { s with constant := addConstant s.constant t }
  | t =>
    let (c, u) := t.coefficient
    { s with terms := addTerm u c s.terms }

/-- A collected summand, nothing when its coefficients cancel. -/
def summand? (p : Term × Scalar) : Option Term :=
  if p.2.isZero then none
  else if p.2.isOne then some p.1
  else match p.1 with
    | .product ts => some (.product (.number p.2 :: ts))
    | t => some (.product [.number p.2, t])

/-- A summand that changes nothing beside this constant. -/
def isTakenIn (constant : Term) (t : Term) : Bool :=
  match constant with
  | .number (.infinite false) => t.isNonnegative
  | .number (.infinite true) => t.isNonpositive
  | .boundless => t.isFinite && (t.isReal || t.isNotReal)
  | _ => false

def toTerm (s : Collected) : Term :=
  if s.constant.isUndefined || s.terms.any fun p => !p.2.isDefined then .undefined
  else
    let ts := (s.terms.filterMap summand?).filter fun t => !isTakenIn s.constant t
    let ts := Term.sorted ts
    .ofSummands (if s.constant.rational? == some 0 then ts else s.constant :: ts)

end Collected

/-- Exact zeros do not count, and a single term stays as it is. -/
def Term.sumOf (ts : List Term) : Term :=
  match ts.filter fun t => t.rational? != some 0 with
  | [] => zero
  | [t] => t
  | ts => ((ts.flatMap summands).foldl Collected.push ⟨zero, []⟩).toTerm

end AlgebraDesk.Symbolic

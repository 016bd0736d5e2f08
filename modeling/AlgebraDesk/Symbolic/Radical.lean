import AlgebraDesk.Symbolic.Term

/-!
# Powers of fractions

A power of a fraction with a fractional exponent is a fraction times roots of whole numbers: whole
powers are taken out of the root, as far as the prime factors up to a bound show them, and a
negative base leaves a power of -1.  Roots with the same exponent are one root, and roots whose
radicands have a common factor share it.

* `extract`     the whole number in front of a root, and the roots that are left;
* `Surd`        a fraction, a power of -1, and roots;
* `Surd.power`  the power of a fraction;
* `combine`     a product of roots as a fraction and roots that have nothing in common;
* `numeralTerm` a surd as a term.
-/

namespace AlgebraDesk.Symbolic

/-- `base ^ exponent` with an exponent between 0 and 1 -/
structure Root where
  base : Rat
  exponent : Rat
  deriving DecidableEq, Repr

/-! ## taking factors out of a root -/

/-- Prime factors are looked for up to here. -/
def factorBound : Nat := 32768

/-- How often `d` divides `n`, and the quotient; `fuel` bounds the number of divisions. -/
def divideOut (d n : Nat) : Nat → Nat × Nat
  | 0 => (0, n)
  | fuel + 1 =>
    if n % d = 0 then
      let (k, r) := divideOut d (n / d) fuel
      (k + 1, r)
    else (0, n)

/-- The largest exponent that makes a number a power, with the base; `fuel` is the exponent that is
tried first. -/
def perfectPower? (n : Nat) : Nat → Option (Nat × Nat)
  | 0 | 1 => none
  | k + 2 =>
    let r := Floating.rootFloor (k + 2) n
    if 1 < r ∧ Nat.pow r (k + 2) = n then some (r, k + 2) else perfectPower? n (k + 1)

/-- Larger exponents are not tried. -/
def maxPerfect : Nat := 64

/-- A number with its power. -/
def asPower (n : Nat) : Nat × Nat := (perfectPower? n (min n.log2 maxPerfect)).getD (n, 1)

/-- Factors from `d` upward with their exponents; `fuel` bounds the number of trials.  What is left
at the end counts as one factor. -/
def trialFactors (d n : Nat) : Nat → List (Nat × Nat)
  | 0 => if 1 < n then [asPower n] else []
  | fuel + 1 =>
    if n ≤ 1 then []
    else if n < d * d then [(n, 1)]
    else
      let (k, r) := divideOut d n (n.log2 + 1)
      if k = 0 then trialFactors (d + 1) n fuel else (d, k) :: trialFactors (d + 1) r fuel

def factorize (n : Nat) : List (Nat × Nat) := trialFactors 2 n factorBound

/-- What a factor `p ^ k` gives to a root with exponent `a / b`: a whole number, a root of smaller
order, and the part that stays. -/
structure Extracted where
  whole : Nat := 1
  roots : List Root := []
  kept : List (Nat × Nat) := []

def Extracted.push (x : Extracted) (a b : Nat) (p k : Nat) : Extracted :=
  let power := k * a
  let rest := power % b
  let g := Nat.gcd rest b
  { whole := x.whole * Nat.pow p (power / b)
    roots := if rest ≠ 0 ∧ g ≠ 1 then ⟨(p : Int), mkRat (rest / g : Nat) (b / g)⟩ :: x.roots
      else x.roots
    kept := if rest ≠ 0 ∧ g = 1 then (p, rest) :: x.kept else x.kept }

/-- `n ^ e` for an exponent between 0 and 1. -/
def extract (n : Nat) (e : Rat) : Nat × List Root :=
  let a := e.num.natAbs
  let b := e.den
  let r := Floating.rootFloor b n
  if n ≤ 1 then (n, [])
  else if 1 < r ∧ Nat.pow r b = n then (Nat.pow r a, [])
  else
    let x : Extracted := (factorize n).foldl (fun (x : Extracted) pk => x.push a b pk.1 pk.2) {}
    let g := x.kept.foldl (fun g pk => Nat.gcd g pk.2) 0
    let base := x.kept.foldl (fun n pk => n * Nat.pow pk.1 (pk.2 / g)) 1
    (x.whole, if base = 1 then x.roots else ⟨(base : Int), mkRat g b⟩ :: x.roots)

/-! ## surds -/

/-- `coefficient * (-1) ^ turns` times the roots -/
structure Surd where
  coefficient : Rat := 1
  turns : Rat := 0
  roots : List Root := []

namespace Surd

/-- `n ^ e` for an exponent that is not negative. -/
def powerNat (n : Nat) (e : Rat) : Rat × List Root :=
  let k := e.floor.natAbs
  let f := e - (k : Int)
  if f == 0 then ((Nat.pow n k : Nat), [])
  else
    let (whole, roots) := extract n f
    ((Nat.pow n k * whole : Nat), roots)

/-- Powers with more bits than this are not worked out. -/
def maxBits : Nat := 134217728

def isHuge (q e : Rat) : Bool :=
  maxBits < (q.num.natAbs.log2 + q.den.log2) * (e.num.natAbs / e.den)

/-- The power of a fraction other than zero.  The denominator is moved out of its root. -/
def power (q e : Rat) : Surd :=
  let (num, den) := if e < 0 then (q.den, q.num.natAbs) else (q.num.natAbs, q.den)
  let e' := if e < 0 then -e else e
  let k : Int := e'.ceil
  let (top, roots) := powerNat num e'
  let (raised, others) := powerNat den (k - e')
  ⟨top * raised / (Nat.pow den k.natAbs : Nat), if q < 0 then e else 0, roots ++ others⟩

end Surd

/-! ## products of roots -/

/-- Roots with one exponent as one root. -/
def insertRoot (rs : List Root) (r : Root) : List Root :=
  match rs with
  | [] => [r]
  | s :: rest =>
    if s.exponent = r.exponent then ⟨s.base * r.base, s.exponent⟩ :: rest
    else s :: insertRoot rest r

/-- Powers of one base as one power. -/
def insertPower (rs : List Root) (r : Root) : List Root :=
  match rs with
  | [] => [r]
  | s :: rest =>
    if s.base = r.base then ⟨s.base, s.exponent + r.exponent⟩ :: rest else s :: insertPower rest r

/-- A whole number in front and an exponent below 1. -/
def reduceRoot (r : Root) : Rat × Option Root :=
  let k := r.exponent.floor
  let f := r.exponent - k
  let whole := if k < 0 then (r.base ^ k.natAbs)⁻¹ else r.base ^ k.natAbs
  (whole, if f == 0 then none else some ⟨r.base, f⟩)

def gcdRat (p q : Rat) : Rat :=
  mkRat (Nat.gcd p.num.natAbs q.num.natAbs : Nat) (Nat.lcm p.den q.den)

/-- The factor common to `r` and each of the others is moved into roots of its own.  Gives the rest
of `r`, the rest of the others, a coefficient, and the new roots. -/
def shareFactors (r : Root) : List Root → Root × List Root × Rat × List Root
  | [] => (r, [], 1, [])
  | s :: rest =>
    let g := gcdRat r.base s.base
    if g == 1 ∨ r.base == 1 then
      let (r', others, c, new) := shareFactors r rest
      (r', s :: others, c, new)
    else
      let (c, shared?) := reduceRoot ⟨g, r.exponent + s.exponent⟩
      let (r', others, c', new) := shareFactors ⟨r.base / g, r.exponent⟩ rest
      (r', ⟨s.base / g, s.exponent⟩ :: others, c * c', shared?.toList ++ new)

/-- One root after the other is freed of common factors, and taken as far as possible; `fuel`
bounds the number of roots that come up. -/
def separate (rs : List Root) : Nat → Rat × List Root
  | 0 => (1, rs)
  | fuel + 1 =>
    match rs with
    | [] => (1, [])
    | r :: rest =>
      let (r, rest, c, new) := shareFactors r rest
      let s := Surd.power r.base r.exponent
      let (c', roots) := separate (rest ++ new) fuel
      (c * s.coefficient * c', s.roots.foldr (fun s rs => insertRoot rs s) roots)

/-- Roots that are numbers after all. -/
def isProper (r : Root) : Bool := r.base != 1

def combine (rs : List Root) : Rat × List Root :=
  let reduced := (rs.foldl insertPower []).map reduceRoot
  let c := reduced.foldl (fun c p => c * p.1) 1
  let roots := reduced.filterMap (·.2)
  let (c', rs) := separate (roots.foldl insertRoot []) (4 * rs.length + 64)
  (c * c', rs.filter isProper)

/-! ## the term of a surd -/

/-- A root of -1 joins a root with its exponent. -/
def joinTurns (turns : Rat) : List Root → List Root
  | [] => [⟨-1, turns⟩]
  | r :: rest =>
    if r.exponent = turns then ⟨-r.base, turns⟩ :: rest else r :: joinTurns turns rest

def Root.toTerm (r : Root) : Term := .power (.ofRat r.base) (.ofRat r.exponent)

/-- The sign and the factors that a power of -1 and roots leave. -/
def rootFactors (turns : Rat) (roots : List Root) : Bool × List Term :=
  let n := turns.floor
  let f := turns - n
  let rest :=
    if f == 0 then roots.map Root.toTerm
    else if f == 1 / 2 then .imaginary :: roots.map Root.toTerm
    else (joinTurns f roots).map Root.toTerm
  (n % 2 != 0, rest)

end AlgebraDesk.Symbolic

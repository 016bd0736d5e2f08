import AlgebraDesk.Symbolic.Radical
import AlgebraDesk.Symbolic.Sum

/-!
# Products, powers and exponentials

The three are worked out together.  A product collects equal bases and adds their exponents, so
factors that cancel are gone, also where they have no value.  A power of a power is one power where
that is right for all complex numbers: for a whole outer exponent, for an inner exponent between
-1 and 1, for a base that is not negative.  An exponential undoes logarithms.

* `Gathered`      the factors of a product, by kind;
* `Gathered.push` one more factor;
* `productWith`, `powerWith`, `exponentialWith`  the three, `fuel` bounding the depth;
* `Term.productOf`, `Term.pow`, `Term.exponential`, `Term.divide`  without the bound.
-/

namespace AlgebraDesk.Symbolic

open Term

/-! ## decimal powers -/

/-- A decimal power of a negative number turns by a fraction of a half turn. -/
def turned (x y : Floating) : Term :=
  let r := Floating.powReal x.abs y
  let angle := y.mul (Floating.ofFixed (r.precision + 32)
    (Floating.piFixed (r.precision + 64)) (-(r.precision + 64 : Nat)))
  let part (f : Floating) : Scalar := .ofFloating ((r.mul f).withPrecision r.precision)
  .sumOf [.number (part angle.cos), Term.imaginary.scale (part angle.sin)]

/-- A power with a whole number of halves as exponent. -/
def halfPower (x : Floating) (halves : Int) : Term :=
  let r := (Floating.sqrt x.abs).powInt halves
  if x.isNegative then
    Term.imaginary.scale (.decimal (if halves.emod 4 = 1 then r else r.neg))
  else .number (.ofFloating r)

def decimalPower (x y : Floating) : Term :=
  let wide := { x with precision := max x.precision y.precision }
  if y.isZero then .number (.decimal ⟨1, 0, wide.precision⟩)
  else if x.isZero then if y.isNegative then .boundless else .number (.decimal x)
  else if y.isInteger then .number (.ofFloating (wide.powInt y.toInt))
  else if y.exponent = -1 then halfPower wide y.mantissa
  else if x.isNegative then turned x y
  else .number (.ofFloating (Floating.powReal x y))

/-- Precision of numbers that are made into decimals on their own. -/
def usualPrecision : Nat := 53

/-- A power of numbers one of which is a decimal. -/
def scalarPower? (b e : Scalar) : Option Term :=
  match b, e with
  | .decimal x, .exact q =>
    if x.isZero then some (if q < 0 then .boundless else .number (.decimal x))
    else if q.den = 1 then some (.number (.ofFloating (x.powInt q.num)))
    else if !(Floating.ofRat x.precision q).isModerate then none
    else if x.isNegative && q.num == 1 && q.den % 2 == 1 then
      match decimalPower x.neg (.ofRat x.precision q) with
      | .number r => some (.product [.number r, .power minusOne (.ofRat q)])
      | t => some t
    else some (decimalPower x (.ofRat x.precision q))
  | .exact p, .decimal y =>
    if !y.isModerate then none
    else if p == 0 then some (if y.isZero then one else if y.isNegative then .boundless else zero)
    else if p == -1 then some (decimalPower (.ofInt usualPrecision (-1)) y)
    else some (decimalPower (.ofRat y.precision p) y)
  | .decimal x, .decimal y => if y.isModerate then some (decimalPower x y) else none
  | _, _ => none

/-! ## the factors of a product -/

structure Gathered where
  /-- a number or boundless -/
  coefficient : Term := one
  powers : List (Term × Term) := []
  /-- powers of positive numbers -/
  numerals : List (Term × Term) := []
  turns : Rat := 0
  roots : List Root := []

namespace Gathered

/-- Zero times an infinity has no value. -/
def mulCoefficient (a b : Term) : Term :=
  match a, b with
  | .number m, .number n => .number (m.mul n)
  | .boundless, .boundless => .boundless
  | .boundless, .number n | .number n, .boundless =>
    if n.isZero || !n.isDefined then .undefined else .boundless
  | a, _ => a

def times (g : Gathered) (t : Term) : Gathered :=
  { g with coefficient := mulCoefficient g.coefficient t }

/-- A fraction to a fraction. -/
def pushRational (g : Gathered) (q e : Rat) : Gathered :=
  if q == 0 then g.times (if e < 0 then .boundless else if e == 0 then one else zero)
  else if Surd.isHuge q e then { g with powers := g.powers ++ [(.ofRat q, .ofRat e)] }
  else if e.den = 1 then g.times (.number ((Scalar.exact q).powInt e.num))
  else if q < 0 then
    { g with turns := g.turns + e, roots := g.roots ++ (if q == -1 then [] else [⟨-q, e⟩]) }
  else { g with roots := g.roots ++ [⟨q, e⟩] }

def pushPower (g : Gathered) (b e : Term) : Gathered :=
  match b, e with
  | .number (.exact q), .number (.exact p) => g.pushRational q p
  | .number m, .number n =>
    match scalarPower? m n with
    | some (.number r) => g.times (.number r)
    | _ => { g with powers := g.powers ++ [(b, e)] }
  | .number n, e =>
    if n.isPositive then { g with numerals := g.numerals ++ [(b, e)] }
    else { g with powers := g.powers ++ [(b, e)] }
  | b, e => { g with powers := g.powers ++ [(b, e)] }

def push (g : Gathered) (t : Term) : Gathered :=
  match t with
  | .number _ | .boundless => g.times t
  | .imaginary => { g with turns := g.turns + 1 / 2 }
  | .power .. =>
    let (b, e) := t.baseAndExponent
    g.pushPower b e
  | t =>
    let (b, e) := t.baseAndExponent
    { g with powers := g.powers ++ [(b, e)] }

end Gathered

/-! ## collecting exponents -/

/-- Coefficients of one exponent. -/
def addExponent (e : Term) (c : Scalar) : List (Term × Scalar) → List (Term × Scalar)
  | [] => [(e, c)]
  | (f, d) :: rest => if f == e then (f, d.add c) :: rest else (f, d) :: addExponent e c rest

/-- The exponents of a base, as multiples of terms. -/
def insertExponent (b e : Term) :
    List (Term × List (Term × Scalar)) → List (Term × List (Term × Scalar))
  | [] => [(b, [(e.coefficient.2, e.coefficient.1)])]
  | (a, es) :: rest =>
    if a == b then (a, addExponent e.coefficient.2 e.coefficient.1 es) :: rest
    else (a, es) :: insertExponent b e rest

/-- Powers with one base and with multiples of one exponent are one power. -/
def collectPowers (ps : List (Term × Term)) : List (Term × Term) :=
  (ps.foldl (fun groups p => insertExponent p.1 p.2 groups) []).flatMap fun g =>
    g.2.map fun e => (g.1, if e.2.isZero then zero else e.1.scale e.2)

/-- Powers of numbers with one exponent are the power of the product. -/
def insertNumeral (b e : Term) : List (Term × Term) → List (Term × Term)
  | [] => [(b, e)]
  | (c, f) :: rest =>
    if f == e then (Gathered.mulCoefficient c b, f) :: rest else (c, f) :: insertNumeral b e rest

def hasDuplicates : List Term → Bool
  | [] => false
  | t :: ts => ts.contains t || hasDuplicates ts

/-- A sum or product with an infinity in it. -/
def holdsInfinity : Term → Bool
  | .sum ts | .product ts => ts.any isUnbounded
  | _ => false

/-! ## finishing a product -/

/-- The sign of an infinite coefficient takes in all factors whose sign is known. -/
def takeSigns (negative : Bool) : List Term → Bool × List Term
  | [] => (negative, [])
  | t :: ts =>
    if t.isPositive then takeSigns negative ts
    else if t.isNegative then takeSigns (!negative) ts
    else
      let (s, rest) := takeSigns negative ts
      (s, t :: rest)

/-- What an infinite or zero coefficient does to the other factors. -/
def settle (c : Term) (ts : List Term) : Term × List Term :=
  match c with
  | .number (.infinite negative) =>
    let (s, rest) := takeSigns negative ts
    (.number (.infinite s), rest)
  | .boundless => (c, ts.filter fun t => !(t.isNonzero && (t.isReal || t.isNotReal)))
  | c => if c.isZero then (if ts.any isUnbounded then .undefined else zero, []) else (c, ts)

/-- A number times a sum is a sum. -/
def finish (c : Term) (ts : List Term) : Term :=
  let (c, ts) := settle c ts
  let c := ts.foldl (fun c t => if t.isNumber then Gathered.mulCoefficient c t else c) c
  let ts := sorted (ts.filter fun t => !t.isNumber)
  if c.isUndefined then .undefined
  else match c, ts with
    | .number n, [.sum us] =>
      if n.isOne then .sum us
      else if n.isFinite && !n.isZero then .sumOf (us.map (scale n)) else .product [c, .sum us]
    | c, ts => .ofFactors (if c.isOne then ts else c :: ts)

/-- A fraction times a term that has a coefficient already is not worked out again. -/
def scaled? (ts : List Term) : Option Term :=
  match ts with
  | [a, b] =>
    let (a, b) := if b.rational?.isSome then (b, a) else (a, b)
    match a.rational?, b.coefficient with
    | some q, (n, .sum us) =>
      if q == 0 then none
      else if n.isOne then some (.sumOf (us.map (scale (.exact q))))
      else some (b.scale (.exact q))
    | _, _ => none
  | _ => none

/-! ## powers of powers -/

/-- An exponent with 2 as denominator. -/
def isHalf (e : Term) : Bool := (e.rational?.map fun q => q.den == 2).getD false

/-- The modulus of a real constant or number is below a bound. -/
def isBelow (e : Term) (bound : Float) : Bool :=
  match e with
  | .number (.exact q) => (Scalar.exact (if q < 0 then -q else q)).toDouble < bound
  | e => (e.estimate?.map fun z => isRealEstimate z && z.re.abs < bound).getD false

def hasNonnegativeRealPart (t : Term) : Bool :=
  t.isNonnegative ||
    (t.estimate?.map fun z => decide (-(trustedPart * z.modulus) ≤ z.re)).getD false

/-- The whole turns by which the argument of `b ^ e` differs from `e` times that of `b`. -/
def wholeTurns? (b e : Term) : Option Int := do
  let z ← b.estimate?
  let w ← e.estimate?
  let t := (w.mul z.log).im / (2 * circleConstant)
  let n := (0.5 - t).floor
  if (0.5 - t - n).abs < trustedPart || (0.5 - t - n - 1).abs < trustedPart then none
  else Double.truncate? n

/-- The sign between a power of a power and the power with the product of the exponents; none when
they may differ by more than a sign. -/
def powerSign? (b e outer : Term) : Option Bool :=
  if outer.integer?.isSome then some false
  else if e.isReal then
    if isBelow e 1 || e.isOne || b.isNonnegative then some false
    else if hasNonnegativeRealPart b && isBelow e 2 then some false
    else if isHalf outer then (wholeTurns? b e).map fun n => n % 2 != 0
    else none
  else if e.isNotReal then
    match wholeTurns? b e with
    | some 0 => some false
    | some n => if isHalf outer then some (n % 2 != 0) else none
    | none => none
  else none

/-- An even power does not see the sign of a real base. -/
def absoluteBase (b e : Term) : Term :=
  if ((e.integer?.map fun n => n % 2 == 0).getD false) && b.isReal then
    if b.isNonnegative then b else if b.isNegative then b.negate else .apply .abs b
  else b

/-! ## powers of products -/

/-- The factors of a product by what is known of their signs. -/
structure Split where
  nonnegative : List Term := []
  negative : List Term := []
  other : List Term := []

def Split.push (s : Split) (t : Term) : Split :=
  if t.isNotReal then { s with other := s.other ++ [t] }
  else if t.isNonnegative then { s with nonnegative := s.nonnegative ++ [t] }
  else if t.isNegative then { s with negative := s.negative ++ [t] }
  else { s with other := s.other ++ [t] }

/-- Two negative factors are made positive together; one that is left keeps its sign with what is
not known. -/
def Split.settle (s : Split) : List Term × List Term :=
  let signFactor (odd : Bool) : List Term := if odd then [minusOne] else []
  match s.negative with
  | [] => (s.nonnegative, s.other)
  | [n] =>
    if s.other.isEmpty then (s.nonnegative, [n])
    else if n.isNumber && n != minusOne then
      (s.nonnegative ++ [n.negate], s.other ++ [minusOne])
    else (s.nonnegative, s.other ++ [n])
  | n :: ns =>
    if s.other.isEmpty && n.isNumber then
      let c := if ns.length % 2 = 1 then n.negate else n
      (s.nonnegative ++ ns.map negate, if c.isOne then [] else [c])
    else (s.nonnegative ++ (n :: ns).map negate, s.other ++ signFactor (ns.length % 2 = 0))

/-! ## sums of a real and an imaginary fraction -/

/-- `a + b i` with fractions, where `b` is not zero. -/
def complexParts? : Term → Option (Rat × Rat)
  | .sum [.number (.exact a), t] =>
    match t.coefficient with
    | (.exact b, .imaginary) => some (a, b)
    | _ => none
  | _ => none

def ofParts (a b : Rat) : Term := .sumOf [.ofRat a, Term.imaginary.scale (.exact b)]

/-- The root of a fraction, if it is one. -/
def rootRat? (q : Rat) : Option Rat :=
  let p := Floating.rootFloor 2 q.num.natAbs
  let r := Floating.rootFloor 2 q.den
  if 0 ≤ q ∧ p * p = q.num.natAbs ∧ r * r = q.den then some (mkRat p r) else none

/-- A complex number with fractional modulus has a root with parts that are roots of fractions. -/
def complexRoot? (a b : Rat) : Option (Rat × Term) := do
  let d ← rootRat? (a * a + b * b)
  let size := if b < 0 then -b else b
  some ((d - a) / 2, ofParts ((d + a) / size) (if b < 0 then -1 else 1))

/-! ## logarithms in exponents -/

/-- Numerator and denominator, apart from a number in front. -/
def fractionOf (t : Term) : List Term × List Term :=
  let isBelowBar (u : Term) : Bool :=
    match u with
    | .power _ e => (e.number?.map Scalar.isNegative).getD false
    | _ => false
  let inverted (u : Term) : Term :=
    match u with
    | .power b e => if e == minusOne then b else .power b e.negate
    | u => u
  let ts := t.coefficient.2.factors
  (ts.filter fun u => !isBelowBar u, (ts.filter isBelowBar).map inverted)

/-- A term without a factor `1 / d`; nothing if it has no such factor. -/
def withoutDivisor? (d : Term) (t : Term) : Option Term :=
  let inverse := Term.power d minusOne
  let ts := t.factors
  if ts.contains inverse then some (.ofFactors (ts.erase inverse)) else none

/-- An exponent of `b` that is a quotient by `log b`: the dividend. -/
def logarithmicExponent? (b e : Term) : Option Term :=
  let d := Term.apply .log b
  match e with
  | .sum ts => (ts.mapM (withoutDivisor? d)).map .sumOf
  | e =>
    match fractionOf e with
    | (_, [d']) => if d' == d then withoutDivisor? d e else none
    | _ => none

/-- A factor that is a logarithm. -/
def logArgument? : Term → Option Term
  | .apply .log u => some u
  | _ => none

/-- The only logarithm among factors that are otherwise real constants: its argument, and the other
factors. -/
def soleLogarithm? (ts : List Term) : Option (Term × List Term) :=
  match ts.filterMap logArgument? with
  | [u] =>
    let rest := ts.filter fun t => (logArgument? t).isNone
    if rest.all fun t => t.isFinite && t.isReal then some (u, rest) else none
  | _ => none

/-! ## whole multiples of turns -/

/-- `q` in `q π i`. -/
def halfTurns? (t : Term) : Option Rat :=
  match t.coefficient with
  | (.exact q, u) => if u == .product [.pi, .imaginary] then some q else none
  | _ => none

/-- An exponential of a multiple of `π i / 2`, or the multiple between -1 and 1. -/
def unitPower? (q : Rat) : Option Term :=
  match (2 * q).den, (2 * q).num.emod 4 with
  | 1, 0 => some one
  | 1, 1 => some .imaginary
  | 1, 2 => some minusOne
  | 1, _ => some Term.imaginary.negate
  | _, _ => none

/-- Into the range above -1 up to 1, by whole turns. -/
def reduceTurns (q : Rat) : Rat :=
  let r := q - 2 * (q / 2).floor
  if 1 < r then r - 2 else r

/-! ## the three -/

mutual

/-- The powers of a product; a power whose base changes may meet another one, so it is collected a
second time. -/
def powerFactors (fuel : Nat) (rounds : Nat) (ps : List (Term × Term)) : Term × List Term :=
  match fuel with
  | 0 => (one, ps.map fun p => .power p.1 p.2)
  | fuel + 1 =>
    let kept := ps.filter fun p => !p.2.isZero
    if ps.any fun p => p.2.isZero && holdsInfinity p.1 then (.undefined, [])
    else
      let results := kept.map fun p =>
        if p.2.isOne then (p.1, p) else
          let r := powerWith fuel p.1 p.2
          match p.1, r with
          | .power .., _ => (r, p)
          | _, .power .. => (r, r.baseAndExponent)
          | _, _ => (r, p)
      let changed := (results.zip kept).any fun r => r.1.2.1 != r.2.1
      if changed && hasDuplicates (results.map (·.2.1)) && 0 < rounds then
        powerFactors fuel (rounds - 1) (collectPowers (results.map (·.2)))
      else (one, results.map (·.1))

/-- The product of some terms. -/
def productWith (fuel : Nat) (ts : List Term) : Term :=
  match fuel with
  | 0 => .ofFactors ts
  | fuel + 1 =>
    match ts.filter fun t => !t.isOne with
    | [] => one
    | [t] => t
    | ts =>
      match scaled? ts with
      | some t => t
      | none =>
        let simple := ts.filter fun t => !(t matches .product _)
        let nested := (ts.filter fun t => t matches .product _).flatMap factors
        let g := (simple ++ nested.flatMap factors).foldl Gathered.push {}
        let (c, parts) := powerFactors fuel 1 (collectPowers g.powers)
        let numerals := (collectPowers g.numerals).foldl
          (fun ps p => insertNumeral p.1 p.2 ps) []
        let numeralParts := (numerals.filter fun p => !p.2.isZero).map
          fun p => powerWith fuel p.1 p.2
        let (front, roots) := combine g.roots
        let (negative, rootParts) := rootFactors g.turns roots
        let c := Gathered.mulCoefficient c (.ofRat (if negative then -front else front))
        finish (Gathered.mulCoefficient g.coefficient c) (parts ++ numeralParts ++ rootParts)

/-- A power. -/
def powerWith (fuel : Nat) (b e : Term) : Term :=
  match fuel with
  | 0 => .power b e
  | fuel + 1 =>
    if e == .boundless then .undefined
    else if e.rational? == some 0 then one
    else if e.isOne then b
    else if e == minusOne && b.isZero then .boundless
    else if b.isUndefined || e.isUndefined then .undefined
    else if b.isOne then if e.isUnbounded then .undefined else one
    else match e.integer? with
      | some n =>
        match b with
        | .product (.number c :: _) =>
          if c.isNegative && b.isConstant then
            let p := powerWith fuel b.negate e
            if n % 2 = 0 then p else productWith fuel [minusOne, p]
          else powerOf fuel b e
        | b => powerOf fuel b e
      | none =>
        if b == .euler then exponentialWith fuel e
        else match logarithmicExponent? b e with
          | some u => exponentialWith fuel u
          | none => powerOf fuel b e

/-- A power, by the form of its base. -/
def powerOf (fuel : Nat) (b e : Term) : Term :=
  match fuel with
  | 0 => .power b e
  | fuel + 1 =>
    match b with
    | .number n => numberPower fuel n e
    | .euler => exponentialWith fuel e
    | .imaginary =>
      match e.rational? with
      | some q =>
        if q.den = 1 then productWith fuel (List.replicate (q.num.emod 4).toNat .imaginary)
        else
          let k := (q / 2).floor
          let p := Term.power .imaginary (.ofRat (q - 2 * k))
          if k % 2 = 0 then p else p.negate
      | none => .power b e
    | .boundless =>
      match e.number? with
      | some n => if n.isPositive then .boundless else zero
      | none => .power b e
    | .product ts => productPower fuel ts e
    | .power c d => nestedPower fuel b c d e
    | .apply .exp u => nestedPower fuel b .euler u e
    | .sum _ => sumPower fuel b e
    | b => .power b e

/-- A power of a number. -/
def numberPower (fuel : Nat) (n : Scalar) (e : Term) : Term :=
  match fuel with
  | 0 => .power (.number n) e
  | fuel + 1 =>
    match n, e with
    | .exact q, .number (.exact p) =>
      if Surd.isHuge q p then .power (.number n) e else
      let g := ({} : Gathered).pushRational q p
      let (front, roots) := combine g.roots
      let (negative, rootParts) := rootFactors g.turns roots
      finish (Gathered.mulCoefficient g.coefficient
        (.ofRat (if negative then -front else front))) rootParts
    | .infinite negative, e =>
      if e.isPositive then
        if negative then
          match e.integer? with
          | some k => .number (.infinite (k % 2 != 0))
          | none => productWith fuel [.number (.infinite false), powerWith fuel minusOne e]
        else .number (.infinite false)
      else if e.isNegative then zero
      else .power (.number n) e
    | n, .number (.infinite negative) =>
      let size := n.abs.toDouble
      if size == 1 then .undefined
      else if (size < 1) != negative then zero
      else if n.isPositive then .number (.infinite false) else .boundless
    | n, .number m => (scalarPower? n m).getD (.power (.number n) e)
    | n, e =>
      if n.isZero then
        if e.isPositive then .number n
        else if e.isNegative then .boundless
        else if e.isNotReal then .undefined
        else
          let (c, u) := e.coefficient
          if c.isNegative then powerWith fuel .boundless u
          else if c.isOne then .power (.number n) e
          else powerWith fuel (.number n) u
      else .power (.number n) e

/-- A power of a product.  A whole power is taken factor by factor; of other powers only factors
that are not negative are taken out. -/
def productPower (fuel : Nat) (ts : List Term) (e : Term) : Term :=
  match fuel with
  | 0 => .power (.product ts) e
  | fuel + 1 =>
    let raw := Term.power (.product ts) e
    match e.number? with
    | none => raw
    | some n =>
      if n.integer?.isSome then
        productWith fuel (ts.map fun t =>
          match t with
          | .imaginary | .number _ | .boundless | .apply .exp _ | .power .. => powerWith fuel t e
          | t => .power t e)
      else if !n.isFinite then raw
      else
        match isHalf e, imaginaryPart? (.product ts) with
        | true, some (.number (.exact a)) =>
          match rootRat? ((if a < 0 then -a else a) / 2) with
          | some r =>
            productWith fuel [powerWith fuel (.ofRat r) (e.scale (.ofInt 2)),
              powerWith fuel (ofParts 1 (if a < 0 then -1 else 1)) (e.scale (.ofInt 2))]
          | none => splitPower fuel ts e
        | _, _ => splitPower fuel ts e

def splitPower (fuel : Nat) (ts : List Term) (e : Term) : Term :=
  match fuel with
  | 0 => .power (.product ts) e
  | fuel + 1 =>
    match (ts.foldl Split.push {}).settle with
    | ([], _) => .power (.product ts) e
    | (taken, other) =>
      productWith fuel ((taken.map fun t => powerWith fuel t e) ++
        (match other with
          | [] => []
          | [t] => [powerWith fuel t e]
          | other =>
            match productWith fuel other with
            | .product us => [.power (.product us) e]
            | u => [powerWith fuel u e]))

/-- A power of the power `b = c ^ d`. -/
def nestedPower (fuel : Nat) (b c d e : Term) : Term :=
  match fuel with
  | 0 => .power b e
  | fuel + 1 =>
    if d == minusOne && isHalf e && c.isNegative then
      productWith fuel [powerWith fuel minusOne e,
        powerWith fuel c.negate (productWith fuel [d, e])]
    else if d == minusOne && isHalf e && c.isNotNegative then powerWith fuel c e.negate
    else
      let c := if e.integer?.isSome then c else absoluteBase c d
      match powerSign? c d e with
      | some negative =>
        let p := powerWith fuel c (productWith fuel [d, e])
        if negative then p.negate else p
      | none => .power b e

/-- A power of a sum: of a complex number with fractional parts, its root or inverse. -/
def sumPower (fuel : Nat) (b e : Term) : Term :=
  match fuel with
  | 0 => .power b e
  | fuel + 1 =>
    match complexParts? b, e.rational? with
    | some (x, y), some q =>
      if q == -1 then .product [.ofRat (x * x + y * y)⁻¹, ofParts x (-y)]
      else if q.den = 2 then
        match complexRoot? x y with
        | some (square, u) =>
          productWith fuel [powerWith fuel (.ofRat square) e, powerWith fuel u (.ofInt q.num)]
        | none => .power b e
      else .power b e
    | _, _ => .power b e

/-- The exponential of a term. -/
def exponentialWith (fuel : Nat) (u : Term) : Term :=
  match fuel with
  | 0 => .apply .exp u
  | fuel + 1 =>
    match u with
    | .number (.decimal x) =>
      if x.isZero then one
      else if x.isModerate then .number (.ofFloating x.exp) else .apply .exp u
    | .number (.infinite negative) => if negative then zero else u
    | .number n =>
      if n.isZero then one
      else if n.isOne then .euler
      else if n.isDefined then .apply .exp u
      else .undefined
    | .boundless => .undefined
    | .apply .log v => v
    | .product ts =>
      match (halfTurns? u).bind unitPower? with
      | some t => t
      | none =>
        match halfTurns? u, soleLogarithm? ts with
        | some q, _ =>
          let r := reduceTurns q
          .apply .exp (if r == q then u else Term.product [.ofRat r, .pi, .imaginary])
        | none, some (v, rest) => powerWith fuel v (productWith fuel rest)
        | none, none => .apply .exp u
    | .sum ts =>
      let results := ts.map fun t => if t.isOne then Term.apply .exp t else exponentialWith fuel t
      let inner := results.filterMap fun t => match t with
        | .apply .exp v => some v
        | _ => none
      let outer := results.filter fun t => !(t matches .apply .exp _)
      if outer.isEmpty && inner == ts then .apply .exp u
      else
        let rest := Term.sumOf inner
        let last := if rest.isZero then one else if rest.isOne then .euler else .apply .exp rest
        productWith fuel (outer ++ [last])
    | u => .apply .exp u

end

namespace Term

/-- Far more than rules ever lead to one another. -/
def ruleDepth : Nat := 400

def productOf (ts : List Term) : Term := productWith ruleDepth ts

def pow (b e : Term) : Term := powerWith ruleDepth b e

def exponential (u : Term) : Term := exponentialWith ruleDepth u

def mul (t u : Term) : Term := productOf [t, u]

/-- Two numbers are divided at once. -/
def divide (t u : Term) : Term :=
  match t, u with
  | .number m, .number n => ((m.quotient? n).map .number).getD (productOf [t, u.pow minusOne])
  | t, u => productOf [t, u.pow minusOne]

def squareRoot (t : Term) : Term := t.pow half

end Term

end AlgebraDesk.Symbolic

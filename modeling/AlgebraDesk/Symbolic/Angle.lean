import AlgebraDesk.Symbolic.Power

/-!
# Functions of angles

Sines, cosines and tangents of fractions of a half turn are worked out where roots of order two
express them; a quarter turn in front of the rest of an angle is taken off.  An imaginary angle
gives a hyperbolic function.  Of an angle and its negative one is preferred, so that odd and even
functions of both cancel.

* `Term.prefersNegative`   whether the negative of a term is the preferred one;
* `imaginaryFactor?`       a term without the imaginary unit as a factor;
* `cosTurn?`, `sinTurn?`, `tanTurn?`  the functions at a fraction of a half turn;
* `Angle`                  quarter turns and the rest of an angle;
* `Term.sine`, `cosine`, `tangent`, `hyperbolicSine`, `hyperbolicCosine`, `hyperbolicTangent`.
-/

namespace AlgebraDesk.Symbolic

open Term

/-! ## signs -/

/-- A term with a negative number in front; of the sums with as many such summands as others, one of
the two that are each other's negatives. -/
def Term.prefersNegative : Term → Bool
  | .number n => n.isNegative
  | .product (.number c :: _) => c.isNegative
  | .sum ts =>
    let negatives := (ts.filter fun t => match t with
      | .number n | .product (.number n :: _) => n.isNegative
      | _ => false).length
    if ts.length < 2 * negatives then true
    else if 2 * negatives < ts.length then false
    else (Term.sum ts).compare (Term.sum ts).negate == .gt
  | _ => false

/-- Of a term that is no sum. -/
def imaginaryCofactor? : Term → Option Term
  | .imaginary => some one
  | .product ts => if ts.contains .imaginary then some (.ofFactors (ts.erase .imaginary)) else none
  | _ => none

def imaginaryFactor? : Term → Option Term
  | .sum ts => (ts.mapM imaginaryCofactor?).map sumOf
  | t => imaginaryCofactor? t

/-! ## fractions of a half turn -/

def rootOf (n : Nat) : Term := (ofInt n).squareRoot

/-- Half of `1 + t`, under a root. -/
def halfAngle (t : Term) : Term := (sumOf [half, t.scale (.exact (1 / 2))]).squareRoot

/-- Angles that are differences of two others, by their denominators. -/
def differences : List (Nat × Nat × Nat) :=
  [(12, 3, 4), (20, 4, 5), (30, 5, 6), (15, 6, 10), (24, 6, 8), (40, 8, 10), (60, 20, 30),
   (120, 40, 60)]

/-- Into the range from 0 to 1/2, with the sign of the cosine. -/
def foldCosine (r : Rat) : Bool × Rat :=
  let s := r - 2 * (r / 2).floor
  let s := if 1 < s then 2 - s else s
  if 1 / 2 < s then (true, 1 - s) else (false, s)

/-- The cosine of a fraction of a half turn between 0 and 1/2; `fuel` bounds the halvings. -/
def cosInner? (r : Rat) : Nat → Option Term
  | 0 => none
  | fuel + 1 =>
    let at? (s : Rat) : Option Term :=
      let (negative, s) := foldCosine s
      (cosInner? s fuel).map fun t => if negative then t.negate else t
    if r == 0 then some one
    else if r == 1 / 2 then some zero
    else match differences.lookup r.den with
      | some (a, b) => do
        let u : Rat := mkRat r.num a
        let v : Rat := mkRat r.num b
        some (sumOf [mul (← at? u) (← at? v), mul (← at? (1 / 2 - u)) (← at? (1 / 2 - v))])
      | none =>
        if r.den = 3 then some half
        else if r.den = 5 then
          let quarter : Rat := if r.num = 1 then 1 / 4 else -1 / 4
          some (sumOf [.ofRat quarter, (rootOf 5).scale (.exact (1 / 4))])
        else if 12 < r.den ∨ r.den % 2 = 1 then none
        else (at? (2 * r)).map halfAngle

/-- Enough for all denominators that are worked out. -/
def halvings : Nat := 12

def cosTurn? (r : Rat) : Option Term :=
  let (negative, s) := foldCosine r
  (cosInner? s halvings).map fun t => if negative then t.negate else t

def sinTurn? (r : Rat) : Option Term := cosTurn? (1 / 2 - r)

/-- A fraction of a half turn as an angle. -/
def turnAngle (r : Rat) : Term := Term.pi.scale (.exact r)

def withSign (negative : Bool) (t : Term) : Term := if negative then t.negate else t

def cosTurn (r : Rat) : Term :=
  let (negative, s) := foldCosine r
  withSign negative ((cosInner? s halvings).getD (.apply .cos (turnAngle s)))

/-- The sine is folded into the range from 0 to 1/2 with its own sign. -/
def sinTurn (r : Rat) : Term :=
  match sinTurn? r with
  | some t => t
  | none =>
    let s := r - 2 * (r / 2).floor
    let (negative, s) := if 1 < s then (true, s - 1) else (false, s)
    withSign negative (.apply .sin (turnAngle (if 1 / 2 < s then 1 - s else s)))

/-- Tangents of fifths and tenths of a half turn, for 1 to 4 tenths. -/
def tenthTangent (tenths : Nat) : Term :=
  let five := rootOf 5
  let (a, b) : Int × Rat := match tenths with
    | 1 => (1, -2 / 5)
    | 2 => (5, -2)
    | 3 => (1, 2 / 5)
    | _ => (5, 2)
  (sumOf [.ofInt a, five.scale (.exact b)]).squareRoot

/-- The tangent between 0 and 1/2, excluded; `fuel` bounds the number of differences. -/
def tanInner? (r : Rat) : Nat → Option Term
  | 0 => none
  | fuel + 1 =>
    if r == 0 then some zero
    else if r.den = 5 ∨ r.den = 10 then some (tenthTangent (10 * r).num.natAbs)
    else
      match (if r.den % 2 = 0 then (do some (← cosTurn? (2 * r), ← sinTurn? (2 * r))) else none :
          Option (Term × Term)) with
      | some (c, s) => some (sumOf [s.pow minusOne, (divide c s).negate])
      | none =>
        let at? (s : Rat) : Option Term :=
          let s := s - s.floor
          if s == 1 / 2 then none
          else if 1 / 2 < s then (tanInner? (1 - s) fuel).map negate
          else tanInner? s fuel
        match differences.lookup r.den with
        | some (a, b) => do
          let u ← at? (mkRat r.num a)
          let v ← at? (mkRat r.num b)
          some (divide (sumOf [u, v.negate]) (sumOf [one, mul u v]))
        | none => do
          let c ← cosTurn? r
          let s ← sinTurn? r
          some (divide s c)

def tanTurn (r : Rat) : Term :=
  let s := r - r.floor
  let (negative, s) := if 1 / 2 < s then (true, 1 - s) else (false, s)
  if s == 1 / 2 then .boundless
  else withSign negative ((tanInner? s halvings).getD (.apply .tan (turnAngle s)))

/-! ## angles -/

/-- A decimal that is a whole number, or one and a power of two below it, is taken as exact. -/
def exactCoefficient (n : Scalar) : Scalar :=
  match n with
  | .decimal x =>
    let q : Rat := if 0 ≤ x.exponent then (x.toInt : Rat)
      else mkRat x.mantissa (Decimal.twoTo x.exponent.natAbs)
    let size := if q < 0 then -q else q
    let rest := size - size.floor
    if rest.num ≤ 1 then .exact q else n
  | n => n

/-- The fraction of a half turn that an angle is. -/
def turns? : Term → Option Rat
  | .pi => some 1
  | .number n => if n.isZero then some 0 else none
  | .product [.number n, .pi] => (exactCoefficient n).rational?
  | _ => none

/-- Quarter turns, and what is left of an angle. -/
structure Angle where
  quarters : Int
  rest : Term

/-- The exact multiple of a half turn in a summand. -/
def halfTurnsIn : Term → Rat
  | .pi => 1
  | .product [.number (.exact q), .pi] => q
  | _ => 0

def Angle.ofSum (ts : List Term) : Angle :=
  let q := ts.foldl (fun q t => q + halfTurnsIn t) 0
  let k := (2 * q).floor
  if k = 0 then ⟨0, .sum ts⟩
  else ⟨k, .sumOf ((ts.filter fun t => halfTurnsIn t == 0) ++ [turnAngle (q - k / 2)])⟩

/-! ## the functions -/

def ofDecimal (f : Floating → Floating) (x : Floating) : Term := .number (.ofFloating (f x))

/-- Off the axes: neither an imaginary angle nor a multiple of a half turn. -/
def plainFunction (f : Operator) (g : Floating → Floating) (t : Term) : Term :=
  match t with
  | .number (.decimal x) => if x.isModerate then ofDecimal g x else .apply f t
  | .number n => if n.isFinite then .apply f t else .undefined
  | .boundless => .undefined
  | t => .apply f t

/-- Of the preferred one of a term and its negative. -/
def hyperbolicOdd (f : Operator) (g : Floating → Floating) (t : Term) : Term :=
  if t.isZero then zero
  else if t.prefersNegative then (plainFunction f g t.negate).negate
  else plainFunction f g t

def Term.hyperbolicSine (t : Term) : Term := hyperbolicOdd .sinh Floating.sinh t

def Term.hyperbolicTangent (t : Term) : Term := hyperbolicOdd .tanh Floating.tanh t

def Term.hyperbolicCosine (t : Term) : Term :=
  if t.isZero then one
  else plainFunction .cosh Floating.cosh (if t.prefersNegative then t.negate else t)

def sinePlain (t : Term) : Term :=
  match imaginaryFactor? t, turns? t with
  | some u, _ => mul .imaginary u.hyperbolicSine
  | none, some r => sinTurn r
  | none, none => plainFunction .sin Floating.sin t

def cosinePlain (t : Term) : Term :=
  match imaginaryFactor? t, turns? t with
  | some u, _ => u.hyperbolicCosine
  | none, some r => cosTurn r
  | none, none => plainFunction .cos Floating.cos t

def tangentPlain (t : Term) : Term :=
  match imaginaryFactor? t, turns? t with
  | some u, _ => mul .imaginary u.hyperbolicTangent
  | none, some r => tanTurn r
  | none, none => plainFunction .tan Floating.tan t

/-- An odd function of the preferred one of an angle and its negative. -/
def oddOf (f : Term → Term) (t : Term) : Term :=
  if t.prefersNegative then (f t.negate).negate else f t

def evenOf (f : Term → Term) (t : Term) : Term := f (if t.prefersNegative then t.negate else t)

/-- The sine of an angle that is some quarter turns further. -/
def sineShifted (quarters : Int) (t : Term) : Term :=
  match quarters.emod 4 with
  | 0 => oddOf sinePlain t
  | 1 => evenOf cosinePlain t
  | 2 => (oddOf sinePlain t).negate
  | _ => (evenOf cosinePlain t).negate

/-- Half a turn does not change a tangent; a quarter makes it a negative cotangent. -/
def tangentShifted (quarters : Int) (t : Term) : Term :=
  if quarters % 2 = 0 then oddOf tangentPlain t
  else if t.prefersNegative then .apply .cot t.negate
  else (Term.apply .cot t).negate

def angleOf (t : Term) : Angle :=
  match t with
  | .sum ts => if (imaginaryFactor? t).isSome then ⟨0, t⟩ else Angle.ofSum ts
  | t => ⟨0, t⟩

def Term.sine : Term → Term := oddOf fun t =>
  let a := angleOf t
  sineShifted a.quarters a.rest

def Term.cosine : Term → Term := evenOf fun t =>
  let a := angleOf t
  sineShifted (a.quarters + 1) a.rest

def Term.tangent : Term → Term := oddOf fun t =>
  let a := angleOf t
  tangentShifted a.quarters a.rest

end AlgebraDesk.Symbolic

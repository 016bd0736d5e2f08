import AlgebraDesk.Floating.Basic

/-!
# Elementary functions of floating-point numbers

The functions are summed in fixed-point arithmetic, where a number is a whole count of units of
`2 ^ -w`, with so many bits to spare that the last rounding decides the result.  An exponential is
reduced by whole multiples of `log 2`, a sine by whole multiples of a quarter turn.

* `exp`, `log`, `sin`, `cos`, `tan`, `sinh`, `cosh`, `tanh`, `sqrt`  for one number;
* `powReal`   a positive number to any power;
* `rootFloor` the whole part of a root of a natural number.
-/

namespace AlgebraDesk.Floating

open Decimal (twoTo)

/-! ## roots of natural numbers -/

/-- A step of Newton's method toward a root of order `k`, from above; `fuel` bounds the steps. -/
def rootFrom (k n r : Nat) : Nat → Nat
  | 0 => r
  | fuel + 1 =>
    let s := ((k - 1) * r + n / Nat.pow r (k - 1)) / k
    if s < r then rootFrom k n s fuel else r

/-- The largest number whose power of order `k` does not exceed `n`. -/
def rootFloor (k n : Nat) : Nat :=
  let bits := bitLength n
  if bits ≤ k then min n 1 else rootFrom k n (twoTo (bits / k + 1)) (bits + k)

/-! ## series -/

/-- The sum of `next` applied again and again, each term divided by its number; `fuel` bounds the
number of terms. -/
def expSeries (w : Nat) (x : Int) (term : Int) (k : Nat) : Nat → Int
  | 0 => 0
  | fuel + 1 =>
    if term = 0 then 0
    else term + expSeries w x (((term * x) >>> w) / (k + 1 : Nat)) (k + 1) fuel

/-- `z + z^3/3 + z^5/5 + ...`, with alternating signs for a negative square. -/
def oddSeries (w : Nat) (square : Int) (power : Int) (k : Nat) : Nat → Int
  | 0 => 0
  | fuel + 1 =>
    if power = 0 then 0
    else power / (k : Int) + oddSeries w square ((power * square) >>> w) (k + 2) fuel

/-- Every other term of the exponential series with alternating signs. -/
def circularSeries (w : Nat) (square : Int) (term : Int) (k : Nat) : Nat → Int
  | 0 => 0
  | fuel + 1 =>
    if term = 0 || term = -1 then 0
    else
      let next := -((term * square) >>> w) / ((k + 1) * (k + 2) : Nat)
      term + circularSeries w square next (k + 2) fuel

/-- Enough terms for `w` bits. -/
def termsFor (w : Nat) : Nat := 2 * w + 16

/-- Bits that a constant is summed with beyond those it keeps. -/
def spareBits : Nat := 32

def atanhInverse (w n : Nat) : Int :=
  let v := w + spareBits
  let z : Int := twoTo v / n
  (oddSeries v ((z * z) >>> v) z 1 (termsFor v)) >>> spareBits

def atanInverse (w n : Nat) : Int :=
  let v := w + spareBits
  let z : Int := twoTo v / n
  (oddSeries v (-((z * z) >>> v)) z 1 (termsFor v)) >>> spareBits

def log2Fixed (w : Nat) : Int := (2 * atanhInverse (w + 4) 3) >>> (4 : Nat)

def piFixed (w : Nat) : Int :=
  (16 * atanInverse (w + 8) 5 - 4 * atanInverse (w + 8) 239) >>> (8 : Nat)

/-- A fixed-point number as a floating-point one. -/
def ofFixed (precision : Nat) (n : Int) (e : Int) : Floating :=
  rounded precision (n < 0) n.natAbs e

/-- In units of `2 ^ -w`. -/
def toFixed (x : Floating) (w : Nat) : Int := shiftInt x.mantissa (x.exponent + w)

/-- A number so small that it does not count against one is the bound for its sign. -/
def isTiny (x : Floating) (w : Nat) : Bool := x.magnitude < -(w : Int)

/-! ## the functions -/

def exp (x : Floating) : Floating :=
  let w := x.precision + spareBits
  if x.isTiny w then (⟨1, 0, x.precision⟩ : Floating).add x
  else
    let v := w + x.magnitude.toNat
    let units := x.toFixed v
    let n := units.fdiv (log2Fixed v)
    let r := (units - n * log2Fixed v) >>> (v - w)
    ofFixed x.precision (expSeries w r (twoTo w) 0 (termsFor w)) (n - w)

/-- Of a positive number.  The number is a power of two times one between 2/3 and 4/3. -/
def log (x : Floating) : Floating :=
  let m := x.mantissa.natAbs
  let bits := bitLength m
  let low := if 3 * m < twoTo (bits + 1) then bits - 1 else bits
  let n : Int := x.exponent + low
  let gap : Int := (m : Int) - twoTo low
  let lost := if n = 0 then bits - bitLength gap.natAbs else 0
  let w := x.precision + spareBits + lost
  let z := gap * twoTo w / (m + twoTo low : Nat)
  let part := 2 * oddSeries w ((z * z) >>> w) z 1 (termsFor w)
  ofFixed x.precision (part + n * log2Fixed w) (-w)

/-- Sine and cosine in units of `2 ^ -w`, and `w`. -/
def circular (x : Floating) : Int × Int × Nat :=
  let w := 2 * x.precision + 64 + x.magnitude.natAbs
  let units := x.toFixed w
  let quarter := piFixed w >>> (1 : Nat)
  let n := units.fdiv quarter
  let r := units - n * quarter
  let square := (r * r) >>> w
  let c := circularSeries w square (twoTo w) 0 (termsFor w)
  let s := circularSeries w square r 1 (termsFor w)
  match n.emod 4 with
  | 0 => (s, c, w)
  | 1 => (c, -s, w)
  | 2 => (-s, -c, w)
  | _ => (-c, s, w)

def sin (x : Floating) : Floating :=
  let (s, _, w) := x.circular
  ofFixed x.precision s (-w)

def cos (x : Floating) : Floating :=
  let (_, c, w) := x.circular
  ofFixed x.precision c (-w)

def tan (x : Floating) : Floating :=
  let (s, c, _) := x.circular
  ofQuotient x.precision (if c < 0 then -s else s) c.natAbs

/-- The exponential with twice the bits, and its inverse. -/
def expPair (x : Floating) : Floating × Floating :=
  let y := exp { x with precision := 2 * x.precision + spareBits + x.magnitude.natAbs }
  (y, y.inverse)

def half (x : Floating) : Floating := { x with exponent := x.exponent - 1 }

def sinh (x : Floating) : Floating :=
  let (y, z) := x.expPair
  (y.add z.neg).half.withPrecision x.precision

def cosh (x : Floating) : Floating :=
  let (y, z) := x.expPair
  (y.add z).half.withPrecision x.precision

def tanh (x : Floating) : Floating :=
  let (y, z) := x.expPair
  ((y.add z.neg).mul (y.add z).inverse).withPrecision x.precision

/-- Of a number that is not negative. -/
def sqrt (x : Floating) : Floating :=
  let wanted := 2 * x.precision + 4 - bitLength x.mantissa.natAbs
  let k := if (x.exponent - wanted) % 2 = 0 then wanted else wanted + 1
  let n := x.mantissa.natAbs <<< k
  let r := rootFloor 2 n
  let rest := if r * r = n then 0 else 1
  rounded x.precision false (2 * r + rest) ((x.exponent - k) / 2 - 1)

/-- A positive number to a power: `exp (y log x)`. -/
def powReal (x y : Floating) : Floating :=
  let precision := max x.precision y.precision
  let reach := y.magnitude.natAbs + bitLength x.magnitude.natAbs
  let wide := { x with precision := precision + 64 + reach }
  let z := exp { (log wide).mul y with precision := precision + spareBits }
  z.withPrecision precision

end AlgebraDesk.Floating

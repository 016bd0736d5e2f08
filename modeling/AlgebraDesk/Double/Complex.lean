import AlgebraDesk.Double.Basic

/-!
# Complex doubles

Pairs of doubles, for the steps of an expression whose value need not be real.  Two real numbers are
combined as real numbers, so no infinity turns into a number that is not one.

* `Complex`           real and imaginary part;
* `isReal`            no imaginary part;
* `add`, `sub`, `mul`, `div`, `neg`, `abs`  arithmetic;
* `exp`, `log`, `sqrt`, `sin`, `cos`, `tan`, `sinh`, `cosh`, `tanh`, `pow`  principal values.
-/

namespace AlgebraDesk.Double

structure Complex where
  re : Float
  im : Float

namespace Complex

def ofReal (x : Float) : Complex := ⟨x, 0⟩

def isReal (z : Complex) : Bool := z.im == 0

def isZero (z : Complex) : Bool := z.re == 0 && z.im == 0

def notANumber : Float := ofCode false nanCode

/-- The value of an expression that has none. -/
def undefined : Complex := ofReal notANumber

/-! ## arithmetic -/

def neg (z : Complex) : Complex := ⟨-z.re, if z.isReal then 0 else -z.im⟩

def add (z w : Complex) : Complex := ⟨z.re + w.re, z.im + w.im⟩

def sub (z w : Complex) : Complex := ⟨z.re - w.re, z.im - w.im⟩

def mul (z w : Complex) : Complex :=
  if z.isReal && w.isReal then ofReal (z.re * w.re)
  else ⟨z.re * w.re - z.im * w.im, z.re * w.im + z.im * w.re⟩

def div (z w : Complex) : Complex :=
  if w.isReal then
    if z.isReal then ofReal (z.re / w.re) else ⟨z.re / w.re, z.im / w.re⟩
  else
    let d := w.re * w.re + w.im * w.im
    ⟨(z.re * w.re + z.im * w.im) / d, (z.im * w.re - z.re * w.im) / d⟩

def modulus (z : Complex) : Float :=
  if z.isReal then z.re.abs else (z.re * z.re + z.im * z.im).sqrt

def abs (z : Complex) : Complex := ofReal z.modulus

/-! ## functions -/

/-- `a * e ^ t`, without an overflow on the way when the product is zero. -/
def stretch (a t : Float) : Float := a * (t / 2).exp * (t / 2).exp

/-- From modulus and angle; the modulus is given by its logarithm. -/
def ofPolar (logModulus angle : Float) : Complex :=
  ⟨stretch angle.cos logModulus, stretch angle.sin logModulus⟩

def exp (z : Complex) : Complex := if z.isReal then ofReal z.re.exp else ofPolar z.re z.im

def log (z : Complex) : Complex :=
  if z.isReal && !(z.re < 0) then ofReal z.re.log
  else ⟨z.modulus.log, Float.atan2 z.im z.re⟩

/-- The sign bit, also of a zero. -/
def isBelowAxis (z : Complex) : Bool := Float.atan2 z.im z.re < 0

def sqrt (z : Complex) : Complex :=
  if z.isReal && !(z.re < 0) then ofReal z.re.sqrt
  else
    let r := z.modulus
    let im := ((r - z.re) / 2).sqrt
    ⟨((r + z.re) / 2).sqrt, if z.isBelowAxis then -im else im⟩

/-- `a * cosh t`; far from zero the smaller exponential does not count. -/
def timesCosh (a t : Float) : Float :=
  if 40 < t.abs then stretch a t.abs / 2 else a * t.cosh

def timesSinh (a t : Float) : Float :=
  if 40 < t.abs then stretch (if t < 0 then -a else a) t.abs / 2 else a * t.sinh

def sin (z : Complex) : Complex :=
  if z.isReal then ofReal z.re.sin
  else ⟨timesCosh z.re.sin z.im, timesSinh z.re.cos z.im⟩

def cos (z : Complex) : Complex :=
  if z.isReal then ofReal z.re.cos
  else ⟨timesCosh z.re.cos z.im, -(timesSinh z.re.sin z.im)⟩

/-- Far from the real axis a tangent is the imaginary unit, but for its sign. -/
def tan (z : Complex) : Complex :=
  if z.isReal then ofReal z.re.tan
  else if 20 < z.im.abs then
    ⟨4 * z.re.sin * z.re.cos * (-2 * z.im.abs).exp, if z.im < 0 then -1 else 1⟩
  else div z.sin z.cos

/-- A quarter turn. -/
def timesI (z : Complex) : Complex := ⟨-z.im, z.re⟩

def overI (z : Complex) : Complex := ⟨z.im, -z.re⟩

def sinh (z : Complex) : Complex :=
  if z.isReal then ofReal z.re.sinh else z.timesI.sin.overI

def cosh (z : Complex) : Complex :=
  if z.isReal then ofReal z.re.cosh else z.timesI.cos

def tanh (z : Complex) : Complex :=
  if z.isReal then ofReal z.re.tanh else z.timesI.tan.overI

/-- A whole power as a product. -/
def natPow (z : Complex) : Nat → Complex
  | 0 => ofReal 1
  | n + 1 => mul (natPow z n) z

/-- A power with any exponent; the power of zero is zero for a positive exponent and undefined
otherwise. -/
def pow (z w : Complex) : Complex :=
  if w.isZero then ofReal 1
  else if z.isZero then
    if w.re > 0 then ofReal 0 else undefined
  else if z.isReal && w.isReal && (z.re > 0 || isWhole w.re) then ofReal (z.re.pow w.re)
  else exp (mul w (log z))

end Complex

end AlgebraDesk.Double

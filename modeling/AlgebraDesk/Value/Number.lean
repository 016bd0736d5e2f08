import AlgebraDesk.Decimal.Numeral
import AlgebraDesk.Fault
import AlgebraDesk.Value.Basic

/-!
# Numbers among the values

A number is an integer or a double, and the two are compared exactly, also where the integer has no
double.  A truth value counts as 0 or 1.  A text is a number only for the operations that read one.

* `Number`                 integers and doubles;
* `Number.lt`, `le`, `eq`  exact comparison, false when one side is not a number;
* `Number.divide`          a quotient, rounded once;
* `toNumber?`              the number that a value is;
* `readReal`, `readInteger`  the double and the integer that a value or its text gives.
-/

namespace AlgebraDesk

inductive Number where
  | int (n : Int)
  | real (x : Float)

namespace Number

def toReal : Number → Except Fault Float
  | .int n => (Double.ofInt? n).elim (.error .tooLarge) .ok
  | .real x => .ok x

def abs : Number → Number
  | .int n => .int n.natAbs
  | .real x => .real x.abs

/-! ## comparison -/

/-- An integer as units. -/
def intUnits (n : Int) : Int := n * Double.unitsPerOne

/-- An integer against a double; none when the double is not a number. -/
def compareIntReal (n : Int) (x : Float) : Option Ordering :=
  match Double.form x with
  | .finite negative m => some (compare (intUnits n) (Double.signed negative m.units))
  | .infinite negative => some (if negative then .gt else .lt)
  | .nan => none

def compare : Number → Number → Option Ordering
  | .int m, .int n => some (Ord.compare m n)
  | .int m, .real y => compareIntReal m y
  | .real x, .int n => (compareIntReal n x).map Ordering.swap
  | .real x, .real y =>
    if x < y then some .lt else if y < x then some .gt else if x == y then some .eq else none

def lt (a b : Number) : Bool := compare a b == some .lt

def le (a b : Number) : Bool := compare a b == some .lt || compare a b == some .eq

def eq (a b : Number) : Bool := compare a b == some .eq

def isZero (a : Number) : Bool := a.eq (.int 0)

/-! ## division -/

/-- The quotient as a double.  Two integers are divided exactly and the result is rounded. -/
def divide : Number → Number → Except Fault Float
  | .int m, .int n =>
    if n = 0 then .error .zeroDivisor
    else match Double.quotient? m n with
      | some x => .ok x
      | none => .error .tooLarge
  | a, b => do
    let x ← a.toReal
    let y ← b.toReal
    if y == 0 then .error .zeroDivisor else .ok (x / y)

def toValue : Number → Value
  | .int n => .int n
  | .real x => .real x

end Number

namespace Value

def toNumber? : Value → Option Number
  | .bool b => some (.int (if b then 1 else 0))
  | .int n => some (.int n)
  | .real x => some (.real x)
  | _ => none

/-- A number that takes part in arithmetic; a text does not. -/
def asNumber (v : Value) : Except Fault Number :=
  match v.toNumber? with
  | some n => .ok n
  | none => .error .wrongKind

def readReal : Value → Except Fault Float
  | .text s => match Decimal.real? s.toList with
    | some x => .ok x
    | none => .error .badValue
  | v => do (← v.asNumber).toReal

/-- A double gives its integer part. -/
def readInteger : Value → Except Fault Int
  | .text s => match Decimal.integer? s.toList with
    | some n => .ok n
    | none => .error .badValue
  | .real x => match Double.truncate? x with
    | some n => .ok n
    | none => if x.isNaN then .error .badValue else .error .tooLarge
  | v => do
    match ← v.asNumber with
    | .int n => .ok n
    | .real _ => .error .wrongKind

end Value

end AlgebraDesk

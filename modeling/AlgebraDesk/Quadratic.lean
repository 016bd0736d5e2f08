import AlgebraDesk.Point
import AlgebraDesk.Polynomial.Basic
import AlgebraDesk.Value.Number

/-!
# Quadratic equations

* `discriminant`, `roots`, `vertex`  what the coefficients determine;
* `Solution`        the answer for explicit coefficients, with a sentence that sums it up;
* `Quadratic.Error` why coefficients have no answer;
* `solve`           the answer for three doubles;
* `solveValues`     the same for values of any kind.

No result is a negative zero: zero is added to every root and to both coordinates of the vertex.
-/

namespace AlgebraDesk.Quadratic

/-- Turns a negative zero into a positive one and changes nothing else. -/
def clean (x : Float) : Float := x + 0.0

def discriminant (a b c : Float) : Float := b * b - 4 * a * c

/-- The lesser of two first; as given when they cannot be compared. -/
def ascending (x y : Float) : List Float := if y < x then [y, x] else [x, y]

/-- The real roots in ascending order, for a discriminant `d` and `a` not zero. -/
def roots (a b d : Float) : List Float :=
  if d > 0 then
    ascending (clean ((-b - d.sqrt) / (2 * a))) (clean ((-b + d.sqrt) / (2 * a)))
  else if d == 0 then [clean (-b / (2 * a))]
  else []

def vertex (a b c : Float) : Point :=
  let x := clean (-b / (2 * a))
  ⟨x, clean (a * x * x + b * x + c)⟩

/-! ## solutions -/

inductive RootKind where
  | two | repeated | complex
  deriving DecidableEq, Repr

def RootKind.ofDiscriminant (d : Float) : RootKind :=
  if d > 0 then .two else if d == 0 then .repeated else .complex

def RootKind.text : RootKind → String
  | .two => "two real roots"
  | .repeated => "one repeated root"
  | .complex => "complex roots"

structure Solution where
  a : Float
  b : Float
  c : Float
  discriminant : Float
  roots : List Float
  vertex : Point
  summary : String

namespace Solution

def rootKind (s : Solution) : RootKind := .ofDiscriminant s.discriminant

def fields (s : Solution) : List (String × Value) :=
  [("a", .real s.a), ("b", .real s.b), ("c", .real s.c), ("discriminant", .real s.discriminant),
   ("roots", .reals s.roots), ("vertex", s.vertex.toValue), ("summary", .text s.summary)]

def toValue (s : Solution) : Value := .object s.fields

end Solution

def describeRoots (places : Int) : List Float → String
  | [x, y] =>
    "Two real roots: x1=" ++ Decimal.display places x ++ ", x2=" ++ Decimal.display places y ++ "."
  | x :: _ => "One repeated root: x=" ++ Decimal.display places x ++ "."
  | [] => "No real roots (complex roots)."

inductive Error where
  | invalidCoefficients
  | notQuadratic
  deriving DecidableEq, Repr

namespace Error

def message : Error → String
  | .invalidCoefficients => "Please enter valid numbers for a, b, and c."
  | .notQuadratic => "a cannot be 0 for a quadratic equation."

def code : Error → String
  | .invalidCoefficients => "INVALID_COEFFICIENTS"
  | .notQuadratic => "NOT_QUADRATIC"

end Error

def solve (places : Int) (a b c : Float) : Except Error Solution :=
  if !(a.isFinite && b.isFinite && c.isFinite) then .error .invalidCoefficients
  else if a == 0 then .error .notQuadratic
  else
    let d := discriminant a b c
    let rs := roots a b d
    let v := vertex a b c
    .ok {
      a, b, c
      discriminant := d
      roots := rs
      vertex := v
      summary := "Discriminant: " ++ Decimal.display places d ++ ". " ++ describeRoots places rs
        ++ " Vertex: " ++ v.display places ++ "." }

/-! ## coefficients of any kind -/

inductive Failure where
  | refused (e : Error)
  | fault (f : Fault)
  deriving DecidableEq, Repr

/-- A coefficient that is not a number is refused; an integer out of range is a fault. -/
def readCoefficient (v : Value) : Except Failure Float :=
  match v.readReal with
  | .ok x => .ok x
  | .error .badValue | .error .wrongKind => .error (.refused .invalidCoefficients)
  | .error f => .error (.fault f)

def solveValues (places : Int) (a b c : Value) : Except Failure Solution := do
  let a ← readCoefficient a
  let b ← readCoefficient b
  let c ← readCoefficient c
  match solve places a b c with
  | .ok s => .ok s
  | .error e => .error (.refused e)

end AlgebraDesk.Quadratic

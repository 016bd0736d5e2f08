import AlgebraDesk.Analysis.Basic
import AlgebraDesk.Polynomial.Display
import AlgebraDesk.Quadratic

/-!
# Lines and parabolas

The account of `y = a*x^2 + b*x + c`.  Without a square term it is a line, which has a root unless it
is horizontal.  Otherwise it is a parabola with a discriminant, a vertex, a side on which it opens
and an axis of symmetry.

* `ofLine`        the account of a line;
* `ofParabola`    the account of a parabola;
* `ofPolynomial`  one of the two;
* `ofValues`      the same for coefficients of any kind.
-/

namespace AlgebraDesk.Curve

open Decimal (display)
open Quadratic (clean)

def allReals : String := "All real numbers"

def onAxis (x : Float) : Point := ⟨x, 0.0⟩

def ofLine (places : Int) (category : Category) (p : Polynomial) : Curve :=
  let line := "y=" ++ ({ b := p.b, c := p.c } : Polynomial).display places
  let roots : List Point := if p.b != 0 then [onAxis (clean (-p.c / p.b))] else []
  let intersections := ⟨0.0, clean p.c⟩ :: roots
  let c := display places p.c
  let second := match roots with
    | r :: _ => "2) Find root x=" ++ display places r.x ++ " and y-intercept (0, " ++ c ++ ")."
    | [] => "2) No root (horizontal line); y-intercept (0, " ++ c ++ ")."
  { category
    steps := "1) Simplify to linear form " ++ line ++ ". " ++ second
      ++ " 3) Build graph expression " ++ line ++ "."
    summary := if roots.isEmpty then "This is a horizontal line (not a parabola)."
      else "This is a line (not a parabola)."
    graph := ⟨line, intersections⟩
    polynomial := p
    discriminant? := none
    features := {
      domain := allReals
      range := if p.b == 0 then c else allReals
      derivative := display places p.b
      symmetry := "None" }
    keyPoints := { roots, intersections } }

/-- The roots as the explanation names them. -/
def rootsText (places : Int) : List Float → String
  | [x, y] => "roots x=" ++ display places x ++ ", x=" ++ display places y
  | x :: _ => "repeated root x=" ++ display places x
  | [] => "no real roots"

def ofParabola (places : Int) (category : Category) (p : Polynomial) : Curve :=
  let d := Quadratic.discriminant p.a p.b p.c
  let vertex := Quadratic.vertex p.a p.b p.c
  let rs := Quadratic.roots p.a p.b d
  let roots := rs.map onAxis
  let intercept : Point := ⟨0.0, clean p.c⟩
  let expression := "y=" ++ p.display places
  let upward := p.a > 0
  { category
    steps := "1) Identify a=" ++ display places p.a ++ ", b=" ++ display places p.b
      ++ ", c=" ++ display places p.c ++ ". 2) Compute D=b^2-4ac=" ++ display places d
      ++ ". 3) Find roots (" ++ rootsText places rs ++ ") and vertex " ++ vertex.display places
      ++ ". 4) Build graph expression " ++ expression ++ "."
    summary := if upward then "Parabola opens upward (minimum at vertex)."
      else "Parabola opens downward (maximum at vertex)."
    graph := ⟨expression, roots ++ [vertex, intercept]⟩
    polynomial := p
    discriminant? := some d
    features := {
      domain := allReals
      range := if upward then "[" ++ display places vertex.y ++ ", +infinity)"
        else "(-infinity, " ++ display places vertex.y ++ "]"
      derivative := ({ b := 2 * p.a, c := p.b } : Polynomial).display places
      symmetry := "About line x=" ++ display places vertex.x }
    keyPoints := {
      roots
      vertex? := some vertex
      intersections := intercept :: roots
      critical := [vertex] } }

def ofPolynomial (places : Int) (category : Category) (p : Polynomial) : Curve :=
  if p.isLinear then ofLine places category p else ofParabola places category p

def isLinear (c : Curve) : Bool := c.polynomial.isLinear

/-- Every coefficient is a number or a text that spells one. -/
def ofValues (places : Int) (category : Category) (a b c : Value) : Except Fault Curve := do
  let p : Polynomial := ⟨← a.readReal, ← b.readReal, ← c.readReal⟩
  return ofPolynomial places category p

end AlgebraDesk.Curve

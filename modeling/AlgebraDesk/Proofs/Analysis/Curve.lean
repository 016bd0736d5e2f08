import AlgebraDesk.Analysis.Curve

/-!
# The parts of an account

What a line and a parabola have as discriminant, roots, vertex and marked points, and how the steps
of a parabola are worded.  Comparing two accounts goes through these, part by part.

* `ofPolynomial_line`, `ofPolynomial_parabola`   which account a polynomial has;
* `discriminant?_ofLine`, `roots_ofLine`, …      the parts.
-/

namespace AlgebraDesk.Curve

open Decimal (display)
open Quadratic (clean)

section
variable (places : Int) (category : Category) (p : Polynomial)

theorem ofPolynomial_line (h : p.isLinear = true) :
    ofPolynomial places category p = ofLine places category p := if_pos h

theorem ofPolynomial_parabola (h : p.isLinear = false) :
    ofPolynomial places category p = ofParabola places category p :=
  if_neg (by rw [h]; exact Bool.false_ne_true)

/-! ## lines -/

@[simp] theorem discriminant?_ofLine : (ofLine places category p).discriminant? = none := rfl

@[simp] theorem vertex?_ofLine : (ofLine places category p).keyPoints.vertex? = none := rfl

theorem roots_ofLine : (ofLine places category p).keyPoints.roots
    = if p.b != 0 then [onAxis (clean (-p.c / p.b))] else [] := rfl

/-! ## parabolas -/

@[simp] theorem discriminant?_ofParabola : (ofParabola places category p).discriminant?
    = some (Quadratic.discriminant p.a p.b p.c) := rfl

@[simp] theorem vertex?_ofParabola : (ofParabola places category p).keyPoints.vertex?
    = some (Quadratic.vertex p.a p.b p.c) := rfl

theorem roots_ofParabola : (ofParabola places category p).keyPoints.roots
    = (Quadratic.roots p.a p.b (Quadratic.discriminant p.a p.b p.c)).map onAxis := rfl

theorem highlights_ofParabola : (ofParabola places category p).graph.highlights
    = (Quadratic.roots p.a p.b (Quadratic.discriminant p.a p.b p.c)).map onAxis
      ++ [Quadratic.vertex p.a p.b p.c, ⟨0.0, clean p.c⟩] := rfl

theorem steps_ofParabola : (ofParabola places category p).steps
    = "1) Identify a=" ++ display places p.a ++ ", b=" ++ display places p.b ++ ", c="
      ++ display places p.c ++ ". 2) Compute D=b^2-4ac="
      ++ display places (Quadratic.discriminant p.a p.b p.c) ++ ". 3) Find roots ("
      ++ rootsText places (Quadratic.roots p.a p.b (Quadratic.discriminant p.a p.b p.c))
      ++ ") and vertex " ++ (Quadratic.vertex p.a p.b p.c).display places
      ++ ". 4) Build graph expression " ++ ("y=" ++ p.display places) ++ "." := rfl

theorem map_onAxis (xs : List Float) : (xs.map onAxis).map (·.x) = xs := by
  rw [List.map_map]
  exact List.map_id xs

end

end AlgebraDesk.Curve

import AlgebraDesk.Proofs.Analysis.Curve
import AlgebraDesk.Proofs.Analysis.Printed
import AlgebraDesk.Proofs.Analysis.Safety
import AlgebraDesk.Proofs.Analysis.Sides
import AlgebraDesk.Proofs.Quadratic.Flipped

/-!
# Exchanging the sides of an equation

With its sides exchanged an equation has the negative polynomial, and so the same solutions: it is a
line or a parabola as before, and the discriminant, the roots in their order and the axis are the
same doubles.

* `line_flipped`        the root of a line;
* `parabola_divides`    the roots of a parabola are numbers when its discriminant is finite;
* `curve_flipped`       the accounts of two flipped polynomials;
* `solveLinear?_flipped`   linear equations;
* `analyze_exchanged`   two texts with an equality sign between them.
-/

namespace AlgebraDesk

open Curve
open Quadratic (Divides clean discriminant)

section
variable {places : Int} {category : Category} {p q : Polynomial}

/-! ## lines -/

theorem line_flipped (h : p.IsFlipped q) (hb : (p.b == 0) = false) :
    clean (-q.c / q.b) = clean (-p.c / p.b) := by
  rw [h.b.eq_opposite hb]
  exact Quadratic.clean_opposite_div h.c p.b

theorem lineRoots_flipped (h : p.IsFlipped q) :
    (ofLine places category q).keyPoints.roots = (ofLine places category p).keyPoints.roots := by
  rw [roots_ofLine, roots_ofLine]
  unfold bne
  rw [h.b.beq_zero]
  cases hb : p.b == 0 with
  | true => rw [Bool.not_true, if_neg Bool.false_ne_true, if_neg Bool.false_ne_true]
  | false => rw [line_flipped h hb]

/-- **A linear equation has the same solution**, if it has just one. -/
theorem solveLinear?_flipped {text text' : List Char} (hp : equationPolynomial? text = some p)
    (hq : equationPolynomial? text' = some q) (h : p.IsFlipped q) :
    solveLinear? text' = solveLinear? text := by
  unfold solveLinear?
  rw [hp, hq]
  show (if q.a != 0 || q.b == 0 then none else some (clean (-q.c / q.b)))
    = if p.a != 0 || p.b == 0 then none else some (clean (-p.c / p.b))
  unfold bne
  rw [h.a.beq_zero, h.b.beq_zero]
  cases hb : p.b == 0 with
  | true => rw [Bool.or_true, if_pos rfl, if_pos rfl]
  | false => rw [line_flipped h hb]

/-! ## parabolas -/

theorem parabola_divides (hp : p.isFinite = true) (ha : p.isLinear = false)
    (hd : (discriminant p.a p.b p.c).isFinite = true) : Divides p.a p.b := by
  obtain ⟨hfa, hfb, _⟩ := Polynomial.isFinite_iff.mp hp
  have hfour : (4 * p.a).isFinite = true :=
    Double.isFinite_of_mul (Double.isFinite_of_sub hd).2
  exact ⟨ha, Quadratic.isFinite_two_mul hfa hfour, hfb⟩

/-- Accounts that tell the same solutions. -/
structure Curve.SolvedAlike (c c' : Curve) : Prop where
  isLinear : c'.isLinear = c.isLinear
  discriminant : c'.discriminant? = c.discriminant?
  roots : c'.keyPoints.roots = c.keyPoints.roots
  axis : c'.keyPoints.vertex?.map (·.x) = c.keyPoints.vertex?.map (·.x)

/-- **Flipped polynomials are solved alike**, with the roots in ascending order. -/
theorem curve_flipped (h : p.IsFlipped q) (hp : p.isFinite = true)
    (hd : p.isLinear = false → (discriminant p.a p.b p.c).isFinite = true) :
    (ofPolynomial places category p).SolvedAlike (ofPolynomial places category q) ∧
      ((ofPolynomial places category p).keyPoints.roots.map (·.x)).Pairwise (· ≤ ·) := by
  have hlinear : (ofPolynomial places category q).isLinear
      = (ofPolynomial places category p).isLinear := by
    unfold Curve.isLinear
    rw [Analysis.polynomial_ofPolynomial, Analysis.polynomial_ofPolynomial, h.isLinear]
  cases ha : p.isLinear with
  | true =>
    have hq := h.isLinear.trans ha
    rw [ofPolynomial_line _ _ _ ha, ofPolynomial_line _ _ _ hq] at *
    refine ⟨⟨hlinear, ?_, lineRoots_flipped h, ?_⟩, ?_⟩
    · rw [discriminant?_ofLine, discriminant?_ofLine]
    · rw [vertex?_ofLine, vertex?_ofLine]
    · rw [roots_ofLine]
      split
      · exact List.pairwise_singleton _ _
      · exact List.Pairwise.nil
  | false =>
    have hq := h.isLinear.trans ha
    have hdivides := parabola_divides hp ha (hd ha)
    have hopposite := h.a.eq_opposite ha
    have hdiscriminant := Quadratic.discriminant_flipped hopposite h.b h.c hdivides.finite_b (hd ha)
    rw [ofPolynomial_parabola _ _ _ ha, ofPolynomial_parabola _ _ _ hq] at *
    refine ⟨⟨hlinear, ?_, ?_, ?_⟩, ?_⟩
    · rw [discriminant?_ofParabola, discriminant?_ofParabola, hdiscriminant]
    · rw [roots_ofParabola, roots_ofParabola, hdiscriminant,
        Quadratic.roots_flipped hdivides hopposite h.b]
    · rw [vertex?_ofParabola, vertex?_ofParabola]
      exact congrArg some (Quadratic.vertex_flipped hopposite h.b p.c q.c)
    · rw [roots_ofParabola, map_onAxis]
      exact Quadratic.pairwise_roots hdivides _

end

/-! ## equations -/

namespace Analysis

open AlgebraDesk.Polynomial (extract?)

/-- **Exchanging the sides of an equation does not change its solutions.** -/
theorem analyze_exchanged (places : Int) {left right : List Char} {p q : Polynomial}
    (hleft : '\n' ∉ left) (hright : '\n' ∉ right) (hp : extract? left = some p)
    (hq : extract? right = some q) (hfinite : (p.sub q).isFinite = true)
    (hd : (p.sub q).isLinear = false →
      (discriminant (p.sub q).a (p.sub q).b (p.sub q).c).isFinite = true) :
    ∃ c c' : Curve, analyze places (left ++ '=' :: right) = .curve c ∧
      analyze places (right ++ '=' :: left) = .curve c' ∧
      c.category = .equation ∧ c'.category = .equation ∧
      c.polynomial = p.sub q ∧ c'.polynomial = q.sub p ∧ c.SolvedAlike c' ∧
      (c.keyPoints.roots.map (·.x)).Pairwise (· ≤ ·) ∧
      solveLinear? (right ++ '=' :: left) = solveLinear? (left ++ '=' :: right) := by
  have hflipped := Polynomial.isFlipped_sub p q
  obtain ⟨halike, hordered⟩ :=
    @curve_flipped places .equation (p.sub q) (q.sub p) hflipped hfinite hd
  exact ⟨_, _, analyze_sides hleft hright hp hq, analyze_sides hright hleft hq hp,
    category_ofPolynomial _ _ _, category_ofPolynomial _ _ _, polynomial_ofPolynomial,
    polynomial_ofPolynomial, halike, hordered,
    solveLinear?_flipped (equationPolynomial?_of_extract? hp hq)
      (equationPolynomial?_of_extract? hq hp) hflipped⟩

/-- The constant term cancels and the parabola opens downward on the other side. -/
theorem analyze_exchanged_parabola :
    '\n' ∉ ['x', '^', '2', '-', '6'] ∧ '\n' ∉ ['5', 'x', '-', '6'] ∧
    ∃ (p q : Polynomial) (c c' : Curve), extract? ['x', '^', '2', '-', '6'] = some p ∧
      extract? ['5', 'x', '-', '6'] = some q ∧ (p.sub q).isFinite = true ∧
      (discriminant (p.sub q).a (p.sub q).b (p.sub q).c).isFinite = true ∧
      analyze 4 ['x', '^', '2', '-', '6', '=', '5', 'x', '-', '6'] = .curve c ∧
      analyze 4 ['5', 'x', '-', '6', '=', 'x', '^', '2', '-', '6'] = .curve c' ∧
      c.SolvedAlike c' ∧ solveLinear? ['5', 'x', '-', '6', '=', 'x', '^', '2', '-', '6']
        = solveLinear? ['x', '^', '2', '-', '6', '=', '5', 'x', '-', '6'] := by
  have hread : ∀ (text : List Char) (r : Polynomial),
      (extract? text).map (fun r => (r.a, r.b, r.c)) = some (r.a, r.b, r.c) →
        extract? text = some r := by
    intro text r h
    obtain ⟨r', hr', hparts⟩ := Option.map_eq_some_iff.mp h
    cases r
    cases r'
    simp only [Prod.mk.injEq] at hparts
    obtain ⟨rfl, rfl, rfl⟩ := hparts
    exact hr'
  have hleft : '\n' ∉ ['x', '^', '2', '-', '6'] := by decide
  have hright : '\n' ∉ ['5', 'x', '-', '6'] := by decide
  have hp : extract? ['x', '^', '2', '-', '6'] = some ⟨1, 0, -6⟩ := hread _ _ (by decide +kernel)
  have hq : extract? ['5', 'x', '-', '6'] = some ⟨0, 5, -6⟩ := hread _ _ (by decide +kernel)
  have hfinite : ((⟨1, 0, -6⟩ : Polynomial).sub ⟨0, 5, -6⟩).isFinite = true := by decide +kernel
  have hd : (discriminant ((1 : Float) - 0) (0 - 5) (-6 - -6)).isFinite = true := by decide +kernel
  obtain ⟨c, c', hc, hc', _, _, _, _, halike, _, hlinear⟩ :=
    analyze_exchanged 4 hleft hright hp hq hfinite fun _ => hd
  exact ⟨hleft, hright, _, _, c, c', hp, hq, hfinite, hd, hc, hc', halike, hlinear⟩

end Analysis

end AlgebraDesk

import AlgebraDesk.Proofs.Analysis.Curve
import AlgebraDesk.Proofs.Analysis.Printed
import AlgebraDesk.Proofs.Decimal.Canonical
import AlgebraDesk.Proofs.Quadratic.Apart
import AlgebraDesk.Proofs.Quadratic.Checked

/-!
# What is reported of integer coefficients

The solver and the account of a parabola name the roots of a quadratic in a list, by a kind, in a
sentence and in a phrase.  All of them look at a computed discriminant or at the list, and for
integer coefficients that are not too large the discriminant is right, so they say the same.

* `Told`             the ways to tell a number of roots, by the sign of the discriminant;
* `solve_integers`, `account_integers`   the parts of a solution and of an account;
* `told_by_sign`     both tell the number of roots that there are;
* `integer_roots_found`   both name the roots of a quadratic that has integer roots.
-/

namespace AlgebraDesk.Quadratic

open AlgebraDesk.Polynomial (ofIntegers)
open Curve (onAxis rootsText)
open Decimal (display twoTo)
open Double (IsSmall integer rational)

/-- The roots that are listed, the kind, the sentence and the phrase, for a discriminant of each
sign.  Two roots are two numbers, the lesser first. -/
inductive Told (places : Int) (d : Int) : List Float → String → String → String → Prop
  | two {x y : Float} (h : 0 < d) (hlt : x < y) : Told places d [x, y] "two real roots"
      ("Two real roots: x1=" ++ display places x ++ ", x2=" ++ display places y ++ ".")
      ("roots x=" ++ display places x ++ ", x=" ++ display places y)
  | repeated {x : Float} (h : d = 0) : Told places d [x] "one repeated root"
      ("One repeated root: x=" ++ display places x ++ ".")
      ("repeated root x=" ++ display places x)
  | complex (h : d < 0) : Told places d [] "complex roots" "No real roots (complex roots)."
      "no real roots"

section
variable {places : Int} {category : Category} {a b c : Int}

/-! ## the parts -/

theorem beq_zero_of_ne_zero (h : IsSmall a) (ha : a ≠ 0) : (integer a == 0) = false := by
  rw [Double.integer_beq_zero h]
  exact beq_false_of_ne ha

/-- Every branch on a discriminant that is an integer takes the sign of the integer. -/
theorem told_integer (places : Int) {d : Int} (ha : a ≠ 0) (ha' : a.natAbs ≤ 2 ^ 25)
    (hb : b.natAbs ≤ 2 ^ 25) (hd : IsSmall d) (hd' : d + 1 + 2 ^ 25 ≤ 2 ^ 53) :
    Told places d (roots (integer a) (integer b) (integer d))
      (RootKind.ofDiscriminant (integer d)).text
      (describeRoots places (roots (integer a) (integer b) (integer d)))
      (rootsText places (roots (integer a) (integer b) (integer d))) := by
  rcases Int.lt_trichotomy d 0 with hneg | rfl | hpos
  · have hnotpos : ¬ integer d > 0 :=
      mt (Double.integer_pos_iff hd).mp (Int.not_lt.mpr (Int.le_of_lt hneg))
    have hzero : ¬ (integer d == 0) = true := by
      rw [beq_zero_of_ne_zero hd (Int.ne_of_lt hneg)]
      exact Bool.false_ne_true
    unfold roots RootKind.ofDiscriminant
    rw [if_neg hnotpos, if_neg hnotpos, if_neg hzero, if_neg hzero]
    exact .complex hneg
  · have hnotpos : ¬ integer 0 > 0 := mt (Double.integer_pos_iff hd).mp (Int.lt_irrefl 0)
    have hzero : (integer 0 == 0) = true := Double.integer_beq_zero hd
    unfold roots RootKind.ofDiscriminant
    rw [if_neg hnotpos, if_neg hnotpos, if_pos hzero, if_pos hzero]
    exact .repeated rfl
  · obtain ⟨x, y, hroots, hlt⟩ := roots_distinct ha ha' hb hpos hd'
    rw [hroots]
    unfold RootKind.ofDiscriminant
    rw [if_pos ((Double.integer_pos_iff hd).mpr hpos)]
    exact .two hpos hlt

theorem readCoefficient_int (h : IsSmall a) : readCoefficient (.int a) = .ok (integer a) :=
  readCoefficient_eq_ok.mpr (Value.readReal_eq_ok.mp (Analysis.readReal_int h))

/-- The parts of a solution. -/
theorem solve_parts (places : Int) {x y z : Float}
    (hfinite : x.isFinite = true ∧ y.isFinite = true ∧ z.isFinite = true) (hx : (x == 0) = false) :
    ∃ s, solve places x y z = .ok s ∧ s.discriminant = discriminant x y z ∧
      s.roots = roots x y s.discriminant ∧ s.vertex = vertex x y z ∧
      s.summary = "Discriminant: " ++ display places s.discriminant ++ ". "
        ++ describeRoots places s.roots ++ " Vertex: " ++ s.vertex.display places ++ "." := by
  obtain ⟨hx', hy, hz⟩ := hfinite
  unfold solve
  rw [hx', hy, hz, if_neg (by decide), hx, if_neg Bool.false_ne_true]
  exact ⟨_, rfl, rfl, rfl, rfl, rfl⟩

theorem solveValues_of_read {u v w : Value} {x y z : Float} {s : Solution}
    (hu : readCoefficient u = .ok x) (hv : readCoefficient v = .ok y)
    (hw : readCoefficient w = .ok z) (h : solve places x y z = .ok s) :
    solveValues places u v w = .ok s := by
  unfold solveValues
  rw [hu, hv, hw]
  simp only [ok_bind]
  rw [h]

/-- The parts of a solution, for coefficients that are given as integers or as doubles. -/
theorem solve_integers (places : Int) (h : IsExact a b c) (ha : a ≠ 0) : ∃ s,
    solveValues places (.int a) (.int b) (.int c) = .ok s ∧
    solve places (integer a) (integer b) (integer c) = .ok s ∧
    s.discriminant = integer (b * b - 4 * a * c) ∧
    s.roots = roots (integer a) (integer b) (integer (b * b - 4 * a * c)) ∧
    s.vertex = vertex (integer a) (integer b) (integer c) ∧
    s.summary = "Discriminant: " ++ toString (b * b - 4 * a * c) ++ ". "
      ++ describeRoots places s.roots ++ " Vertex: " ++ s.vertex.display places ++ "." := by
  obtain ⟨s, hs, hdiscriminant, hroots, hvertex, hsummary⟩ := solve_parts places
    ⟨Double.isFinite_integer h.small_a, Double.isFinite_integer h.small_b,
      Double.isFinite_integer h.small_c⟩ (beq_zero_of_ne_zero h.small_a ha)
  have hvalues := solveValues_of_read (readCoefficient_int h.small_a)
    (readCoefficient_int h.small_b) (readCoefficient_int h.small_c) hs
  rw [discriminant_integer h] at hdiscriminant
  rw [hdiscriminant] at hroots
  rw [hdiscriminant, Decimal.display_integer places h.discriminant] at hsummary
  exact ⟨s, hvalues, hs, hdiscriminant, hroots, hvertex, hsummary⟩

theorem clean_integer (h : IsSmall c) : clean (integer c) = integer c := by
  have e := clean_nearest (s := c < 0) h
  rwa [Double.signed_natAbs] at e

/-- The parts of an account, for coefficients that are given as integers or as doubles. -/
theorem account_integers (places : Int) (category : Category) (h : IsExact a b c) (ha : a ≠ 0) :
    ∃ curve, Curve.ofValues places category (.int a) (.int b) (.int c) = .ok curve ∧
      Curve.ofPolynomial places category ⟨integer a, integer b, integer c⟩ = curve ∧
      curve.discriminant? = some (integer (b * b - 4 * a * c)) ∧
      curve.keyPoints.roots
        = (roots (integer a) (integer b) (integer (b * b - 4 * a * c))).map onAxis ∧
      curve.keyPoints.vertex? = some (vertex (integer a) (integer b) (integer c)) ∧
      curve.graph.highlights = curve.keyPoints.roots
        ++ [vertex (integer a) (integer b) (integer c), ⟨0.0, integer c⟩] ∧
      curve.steps = "1) Identify a=" ++ toString a ++ ", b=" ++ toString b ++ ", c=" ++ toString c
        ++ ". 2) Compute D=b^2-4ac=" ++ toString (b * b - 4 * a * c) ++ ". 3) Find roots ("
        ++ rootsText places (roots (integer a) (integer b) (integer (b * b - 4 * a * c)))
        ++ ") and vertex " ++ (vertex (integer a) (integer b) (integer c)).display places
        ++ ". 4) Build graph expression " ++ curve.graph.expression ++ "." := by
  have hcurve : Curve.ofPolynomial places category (ofIntegers a b c)
      = .ofParabola places category (ofIntegers a b c) :=
    Curve.ofPolynomial_parabola _ _ _ (beq_zero_of_ne_zero h.small_a ha)
  have hvalues := Analysis.ofValues_int places category h.small_a h.small_b h.small_c
  rw [hcurve] at hvalues
  have hroots := Curve.roots_ofParabola places category (ofIntegers a b c)
  have hhighlights := Curve.highlights_ofParabola places category (ofIntegers a b c)
  rw [← hroots] at hhighlights
  have hsteps := Curve.steps_ofParabola places category (ofIntegers a b c)
  have hdiscriminant := Curve.discriminant?_ofParabola places category (ofIntegers a b c)
  unfold ofIntegers at hvalues hcurve hroots hhighlights hsteps hdiscriminant
  rw [discriminant_integer h] at hroots hsteps hdiscriminant
  rw [clean_integer h.small_c] at hhighlights
  rw [Decimal.display_integer places h.small_a, Decimal.display_integer places h.small_b,
    Decimal.display_integer places h.small_c, Decimal.display_integer places h.discriminant]
    at hsteps
  exact ⟨_, hvalues, hcurve, hdiscriminant, hroots, rfl, hhighlights, hsteps⟩

/-! ## the number of the roots -/

/-- **The number of roots is told right**, everywhere, and the discriminant is exact. -/
theorem told_by_sign (places : Int) (category : Category) (ha : a ≠ 0)
    (hle : a.natAbs ≤ 2 ^ 25 ∧ b.natAbs ≤ 2 ^ 25 ∧ c.natAbs ≤ 2 ^ 25) :
    ∃ (s : Solution) (curve : Curve) (sentence phrase : String),
      solveValues places (.int a) (.int b) (.int c) = .ok s ∧
      solve places (integer a) (integer b) (integer c) = .ok s ∧
      Curve.ofValues places category (.int a) (.int b) (.int c) = .ok curve ∧
      Curve.ofPolynomial places category ⟨integer a, integer b, integer c⟩ = curve ∧
      s.discriminant = integer (b * b - 4 * a * c) ∧ curve.discriminant? = some s.discriminant ∧
      rational s.discriminant = ((b * b - 4 * a * c : Int) : Rat) ∧
      Told places (b * b - 4 * a * c) s.roots s.rootKind.text sentence phrase ∧
      s.summary = "Discriminant: " ++ toString (b * b - 4 * a * c) ++ ". " ++ sentence
        ++ " Vertex: " ++ s.vertex.display places ++ "." ∧
      curve.steps = "1) Identify a=" ++ toString a ++ ", b=" ++ toString b ++ ", c=" ++ toString c
        ++ ". 2) Compute D=b^2-4ac=" ++ toString (b * b - 4 * a * c) ++ ". 3) Find roots ("
        ++ phrase ++ ") and vertex " ++ s.vertex.display places
        ++ ". 4) Build graph expression " ++ curve.graph.expression ++ "." ∧
      curve.keyPoints.roots = s.roots.map onAxis ∧
      curve.graph.highlights = s.roots.map onAxis ++ [s.vertex, ⟨0.0, integer c⟩] := by
  have h : IsExact a b c :=
    .of_le hle.1 hle.2.1 hle.2.2 (by decide) (by decide) (by decide)
  obtain ⟨s, hvalues, hsolve, hdiscriminant, hroots, hvertex, hsummary⟩ :=
    solve_integers places h ha
  obtain ⟨curve, hvalues', hcurve, hdiscriminant', hroots', _, hhighlights, hsteps⟩ :=
    account_integers places category h ha
  have hlimit : b * b - 4 * a * c + 1 + 2 ^ 25 ≤ 2 ^ 53 := by
    have hsquare := natAbs_mul_le hle.2.1 hle.2.1
    have hproduct := natAbs_mul_le (m := 4 * a) (M := 2 ^ 27) (by omega) hle.2.2
    omega
  have htold := told_integer places ha hle.1 hle.2.1 h.discriminant hlimit
  rw [← hroots, ← hdiscriminant] at htold
  rw [← hroots, ← hvertex] at hsteps
  rw [← hroots] at hroots'
  rw [hroots', ← hvertex] at hhighlights
  rw [← hdiscriminant] at hdiscriminant'
  have hexact : rational s.discriminant = ((b * b - 4 * a * c : Int) : Rat) := by
    rw [hdiscriminant, Double.rational_integer h.discriminant]
  exact ⟨s, curve, _, _, hvalues, hsolve, hvalues', hcurve, hdiscriminant, hdiscriminant', hexact,
    htold, hsummary, hsteps, hroots', hhighlights⟩

/-- The largest coefficients, with a discriminant that is zero. -/
theorem told_by_sign_repeated : ((33554432 : Int) ≠ 0 ∧ (33554432 : Int).natAbs ≤ 2 ^ 25 ∧
      (-33554432 : Int).natAbs ≤ 2 ^ 25 ∧ (8388608 : Int).natAbs ≤ 2 ^ 25) ∧
    ∃ s, solveValues 4 (.int 33554432) (.int (-33554432)) (.int 8388608) = .ok s ∧
      s.rootKind.text = "one repeated root" ∧ s.roots.length = 1 := by
  have hne : (33554432 : Int) ≠ 0 := by decide
  have hle : (33554432 : Int).natAbs ≤ 2 ^ 25 ∧ (-33554432 : Int).natAbs ≤ 2 ^ 25 ∧
      (8388608 : Int).natAbs ≤ 2 ^ 25 := by decide
  obtain ⟨s, _, _, _, hs, _, _, _, _, _, _, htold, _⟩ := told_by_sign 4 .function hne hle
  refine ⟨⟨hne, hle⟩, s, hs, ?_⟩
  generalize s.rootKind.text = kind at htold ⊢
  generalize s.roots = rs at htold ⊢
  cases htold with
  | two h _ => exact absurd h (by decide)
  | repeated _ => exact ⟨rfl, rfl⟩
  | complex h => exact absurd h (by decide)

/-! ## integer roots -/

variable {k p q : Int}

/-- The roots in words, with all their digits. -/
theorem words_factored (places : Int) (h : IsFactored k p q) :
    (describeRoots places ((integerRoots p q).map integer)
      = if p = q then "One repeated root: x=" ++ toString p ++ "."
        else "Two real roots: x1=" ++ toString (min p q) ++ ", x2=" ++ toString (max p q) ++ ".") ∧
    rootsText places ((integerRoots p q).map integer)
      = if p = q then "repeated root x=" ++ toString p
        else "roots x=" ++ toString (min p q) ++ ", x=" ++ toString (max p q) := by
  have hshown : ∀ r ∈ integerRoots p q, display places (integer r) = toString r :=
    fun r hr => Decimal.display_integer places (isSmall_of_mem_integerRoots h hr)
  unfold integerRoots at hshown ⊢
  split
  · rename_i hpq
    rw [if_pos hpq, List.forall_mem_singleton] at hshown
    show "One repeated root: x=" ++ display places (integer p) ++ "." = _ ∧
      "repeated root x=" ++ display places (integer p) = _
    rw [hshown]
    exact ⟨rfl, rfl⟩
  · rename_i hpq
    rw [if_neg hpq, List.forall_mem_cons, List.forall_mem_singleton] at hshown
    show "Two real roots: x1=" ++ display places (integer (min p q)) ++ ", x2="
        ++ display places (integer (max p q)) ++ "." = _ ∧
      "roots x=" ++ display places (integer (min p q)) ++ ", x="
        ++ display places (integer (max p q)) = _
    rw [hshown.1, hshown.2]
    exact ⟨rfl, rfl⟩

theorem not_negative_zero (places : Int) {n : Int} (h : IsSmall n) :
    integer n ≠ -0 ∧ display places (integer n) ≠ "-0" := by
  refine ⟨Double.integer_ne_negativeZero h, fun hshown => ?_⟩
  obtain ⟨m, hchars, hne, _⟩ := Decimal.canonical_display (Double.isFinite_integer h) places
  rw [hshown] at hchars
  exact hne hchars.symm

/-- **Integer roots are found exactly**, in ascending order and never as a negative zero, with the
axis in the middle. -/
theorem integer_roots_found (places : Int) (category : Category) (hk : k ≠ 0)
    (hle : k.natAbs ≤ 2 ^ 12 ∧ p.natAbs ≤ 2 ^ 12 ∧ q.natAbs ≤ 2 ^ 12) :
    ∃ (s : Solution) (curve : Curve),
      solveValues places (.int k) (.int (-(k * (p + q)))) (.int (k * p * q)) = .ok s ∧
      solve places (integer k) (integer (-(k * (p + q)))) (integer (k * p * q)) = .ok s ∧
      Curve.ofValues places category (.int k) (.int (-(k * (p + q)))) (.int (k * p * q))
        = .ok curve ∧
      Curve.ofPolynomial places category
        ⟨integer k, integer (-(k * (p + q))), integer (k * p * q)⟩ = curve ∧
      s.roots = (if p = q then [integer p] else [integer (min p q), integer (max p q)]) ∧
      s.roots.map rational
        = (if p = q then [(p : Rat)] else [((min p q : Int) : Rat), ((max p q : Int) : Rat)]) ∧
      curve.keyPoints.roots = s.roots.map onAxis ∧
      (∀ r ∈ s.roots, r ≠ -0 ∧ display places r ≠ "-0") ∧
      s.summary = "Discriminant: " ++ toString (k * (p - q) * (k * (p - q))) ++ ". "
        ++ (if p = q then "One repeated root: x=" ++ toString p ++ "."
          else "Two real roots: x1=" ++ toString (min p q) ++ ", x2=" ++ toString (max p q) ++ ".")
        ++ " Vertex: " ++ s.vertex.display places ++ "." ∧
      curve.steps = "1) Identify a=" ++ toString k ++ ", b=" ++ toString (-(k * (p + q)))
        ++ ", c=" ++ toString (k * p * q) ++ ". 2) Compute D=b^2-4ac="
        ++ toString (k * (p - q) * (k * (p - q))) ++ ". 3) Find roots ("
        ++ (if p = q then "repeated root x=" ++ toString p
          else "roots x=" ++ toString (min p q) ++ ", x=" ++ toString (max p q))
        ++ ") and vertex " ++ s.vertex.display places
        ++ ". 4) Build graph expression " ++ curve.graph.expression ++ "." ∧
      s.vertex.x.isFinite = true ∧ s.vertex.x ≠ -0 ∧
      rational s.vertex.x = ((p + q : Int) : Rat) / 2 ∧
      curve.keyPoints.vertex? = some s.vertex := by
  have h : IsFactored k p q := .of_le hk hle.1 hle.2.1 hle.2.2
  have hsquare : -(k * (p + q)) * -(k * (p + q)) - 4 * k * (k * p * q)
      = k * (p - q) * (k * (p - q)) := by ring
  obtain ⟨s, hvalues, hsolve, _, hroots, hvertex, hsummary⟩ := solve_integers places h.exact hk
  obtain ⟨curve, hvalues', hcurve, _, hroots', hvertex', _, hsteps⟩ :=
    account_integers places category h.exact hk
  obtain ⟨hfinite, hmiddle⟩ := vertex_factored h (integer (k * p * q))
  obtain ⟨hsentence, hphrase⟩ := words_factored places h
  rw [hsquare, roots_factored h] at hroots hroots' hsteps
  rw [hsquare, hroots, hsentence] at hsummary
  rw [hphrase, ← hvertex] at hsteps
  rw [← hroots] at hroots'
  rw [← hvertex] at hfinite hmiddle hvertex'
  have hclean : s.vertex.x ≠ -0 := by
    rw [hvertex]
    exact clean_ne_negativeZero _
  have hshown : ∀ r ∈ s.roots, r ≠ -0 ∧ display places r ≠ "-0" := by
    intro r hr
    rw [hroots] at hr
    obtain ⟨n, hn, rfl⟩ := List.mem_map.mp hr
    exact not_negative_zero places (isSmall_of_mem_integerRoots h hn)
  have hexact : s.roots.map rational = (integerRoots p q).map fun r : Int => (r : Rat) := by
    rw [hroots, List.map_map]
    exact List.map_congr_left fun r hr =>
      Double.rational_integer (isSmall_of_mem_integerRoots h hr)
  rw [map_integerRoots] at hroots hexact
  exact ⟨s, curve, hvalues, hsolve, hvalues', hcurve, hroots, hexact, hroots', hshown, hsummary,
    hsteps, hfinite, hclean, hmiddle, hvertex'⟩

/-- A parabola that opens downward and goes through the origin. -/
theorem integer_roots_found_downward : ((-2 : Int) ≠ 0 ∧ (-2 : Int).natAbs ≤ 2 ^ 12 ∧
      (3 : Int).natAbs ≤ 2 ^ 12 ∧ (0 : Int).natAbs ≤ 2 ^ 12) ∧
    ∃ s, solveValues 4 (.int (-2)) (.int 6) (.int 0) = .ok s ∧
      s.roots = [integer 0, integer 3] ∧ rational s.vertex.x = 3 / 2 := by
  have hne : (-2 : Int) ≠ 0 := by decide
  have hle : (-2 : Int).natAbs ≤ 2 ^ 12 ∧ (3 : Int).natAbs ≤ 2 ^ 12 ∧
      (0 : Int).natAbs ≤ 2 ^ 12 := by
    decide
  obtain ⟨s, _, hs, _, _, _, hroots, _, _, _, _, _, _, _, hmiddle, _⟩ :=
    integer_roots_found 4 .function hne hle
  rw [if_neg (by decide)] at hroots
  refine ⟨⟨hne, hle⟩, s, hs, hroots, ?_⟩
  rw [hmiddle]
  norm_num

end

end AlgebraDesk.Quadratic

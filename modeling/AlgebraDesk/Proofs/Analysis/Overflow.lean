import AlgebraDesk.Proofs.Analysis.Printed
import AlgebraDesk.Proofs.Analysis.Safety
import AlgebraDesk.Proofs.Analysis.Sides
import AlgebraDesk.Proofs.Double.Range

/-!
# Coefficients out of range

The coefficients of a function are read from its text and are finite.  Those of an equation are
differences, which nobody looks at again: two sides that are far enough apart have an infinite
difference, and the expression to draw then holds the word `infinity`.  A difference is never
anything but a number.

* `curve_cases`                which texts have an account, and of which polynomial;
* `isFinite_sub_iff_inRange`   when a difference is finite;
* `infinity_infix_display`     what infinite coefficients look like;
* `curve_finite_unless_apart`  the coefficients and the expression of any account.
-/

namespace AlgebraDesk

open Double (infinityCode ofCode tooLargeFrom)
open AlgebraDesk.Polynomial (extract? isPolynomialChar)

/-! ## coefficients -/

/-- The exact difference is nearer to a double than to 2 ^ 1024. -/
def Double.InRange (x y : Float) : Prop := |rational x - rational y| < tooLargeFrom

namespace Coefficient

theorem ofReal_infinite (places : Int) (s : Bool) :
    ofReal places (ofCode s infinityCode) = ⟨s, false, false, "infinity".toList⟩ := by
  have habs : (ofCode s infinityCode).abs = ofCode false infinityCode := by cases s <;> rfl
  have hform : Double.form (ofCode false infinityCode) = .infinite false := by decide +kernel
  have hdisplay : Decimal.display places (ofCode false infinityCode) = "infinity" := by
    unfold Decimal.display
    rw [hform]
    rfl
  have hnegative : decide (ofCode s infinityCode < 0) = s := by cases s <;> decide +kernel
  have hzero : (ofCode s infinityCode == 0) = false := by cases s <;> decide +kernel
  have hunit : (ofCode false infinityCode == 1) = false := by decide +kernel
  unfold ofReal
  rw [habs, hdisplay, hnegative, hzero, hunit]
  rfl

end Coefficient

namespace Polynomial

/-- Every coefficient is finite or infinite. -/
def IsNumeric (p : Polynomial) : Prop :=
  ∀ x ∈ [p.a, p.b, p.c], x.isFinite = true ∨ ∃ s, x = ofCode s infinityCode

theorem isFinite_eq_all (p : Polynomial) : p.isFinite = [p.a, p.b, p.c].all Float.isFinite := by
  simp [isFinite, Bool.and_assoc]

theorem IsNumeric.of_isFinite {p : Polynomial} (h : p.isFinite = true) : p.IsNumeric := by
  rw [isFinite_eq_all, List.all_eq_true] at h
  exact fun x hx => .inl (h x hx)

section
variable {p q : Polynomial} {places : Int}

theorem isFinite_of_extract? {text : List Char} (h : extract? text = some p) :
    p.isFinite = true := by
  obtain ⟨_, _, _, _, hfinite⟩ := extract?_eq_some.mp h
  exact hfinite

theorem isNumeric_sub (hp : p.isFinite = true) (hq : q.isFinite = true) : (p.sub q).IsNumeric := by
  obtain ⟨ha, hb, hc⟩ := isFinite_iff.mp hp
  obtain ⟨ha', hb', hc'⟩ := isFinite_iff.mp hq
  intro x hx
  simp only [List.mem_cons, List.not_mem_nil, or_false] at hx
  rcases hx with rfl | rfl | rfl
  · exact Double.finite_or_infinite_sub ha ha'
  · exact Double.finite_or_infinite_sub hb hb'
  · exact Double.finite_or_infinite_sub hc hc'

theorem isFinite_sub_iff_inRange (hp : p.isFinite = true) (hq : q.isFinite = true) :
    (p.sub q).isFinite = true ↔
      Double.InRange p.a q.a ∧ Double.InRange p.b q.b ∧ Double.InRange p.c q.c := by
  obtain ⟨ha, hb, hc⟩ := isFinite_iff.mp hp
  obtain ⟨ha', hb', hc'⟩ := isFinite_iff.mp hq
  rw [isFinite_iff]
  exact and_congr (Double.isFinite_sub_iff ha ha')
    (and_congr (Double.isFinite_sub_iff hb hb') (Double.isFinite_sub_iff hc hc'))

/-! ## printed coefficients -/

/-- A term that is neither left out nor a unit shows its numeral. -/
theorem numeral_infix_displaySum {es : List (Coefficient × List Char)} {e : Coefficient × List Char}
    (he : e ∈ es) (hvanishes : e.1.vanishes = false) (hunit : e.1.isUnit = false) (first : Bool) :
    e.1.numeral <:+: displaySum first es := by
  induction es generalizing first with
  | nil => cases he
  | cons e' es ih =>
    rw [displaySum]
    rcases List.mem_cons.mp he with rfl | he
    · have hnumeral : numeralOf e.1 e.2 = e.1.numeral := by
        unfold numeralOf
        rw [hunit, Bool.and_false, if_neg Bool.false_ne_true]
      rw [hvanishes, if_neg Bool.false_ne_true, displayTerm_eq, hnumeral]
      exact ⟨signOf e.1 first, e.2 ++ displaySum false es, by simp⟩
    · split
      · exact ih he first
      · exact (ih he false).trans (List.suffix_append _ _).isInfix

theorem numeral_infix_displayTerms {ka kb kc k : Coefficient} (hk : k ∈ [ka, kb, kc])
    (hvanishes : k.vanishes = false) (hunit : k.isUnit = false) (hne : k.numeral ≠ []) :
    k.numeral <:+: displayTerms ka kb kc := by
  have hterm : ∃ power, (k, power) ∈ [(ka, ['x', '^', '2']), (kb, ['x']), (kc, [])] := by
    simp only [List.mem_cons, List.not_mem_nil, or_false] at hk
    rcases hk with rfl | rfl | rfl
    · exact ⟨_, List.mem_cons_self⟩
    · exact ⟨_, List.mem_cons_of_mem _ List.mem_cons_self⟩
    · exact ⟨_, List.mem_cons_of_mem _ (List.mem_cons_of_mem _ List.mem_cons_self)⟩
  obtain ⟨power, hterm⟩ := hterm
  have hsum := numeral_infix_displaySum hterm hvanishes hunit true
  unfold displayTerms
  split
  · rename_i hnil
    rw [hnil] at hsum
    exact absurd (List.infix_nil.mp hsum) hne
  · exact hsum

/-- The characters of a polynomial whose coefficients are numbers. -/
theorem mem_displayChars (h : p.IsNumeric) {c : Char} (hc : c ∈ p.displayChars places) :
    isPolynomialChar c = true ∨ c ∈ "infinity".toList := by
  have hnumeral : ∀ x ∈ [p.a, p.b, p.c], ∀ c ∈ (Coefficient.ofReal places x).numeral,
      isPolynomialChar c = true ∨ c ∈ "infinity".toList := by
    intro x hx c hc
    rcases h x hx with hfinite | ⟨s, hinfinite⟩
    · exact .inl (isPolynomialChar_of_isWritten
        (Coefficient.numeral_ofReal_written places hfinite) c hc)
    · rw [hinfinite, Coefficient.ofReal_infinite] at hc
      exact .inr hc
  have hfixed : ∀ c ∈ ['x', '^', '2', '+', '-', '0'], isPolynomialChar c = true :=
    List.all_eq_true.mp (by decide)
  simp only [List.forall_mem_cons] at hnumeral
  exact of_mem_displayTerms (P := fun c => isPolynomialChar c = true ∨ c ∈ "infinity".toList)
    (fun c hc => .inl (hfixed c hc)) hnumeral.1 hnumeral.2.1 hnumeral.2.2.1 c hc

/-- **The word stands in the text just when a coefficient is infinite.** -/
theorem infinity_infix_display (h : p.IsNumeric) :
    "infinity".toList <:+: p.displayChars places ↔ p.isFinite = false := by
  constructor
  · intro hinfix
    by_contra hfinite
    rw [Bool.not_eq_false] at hfinite
    have hi : 'i' ∈ p.displayChars places := hinfix.subset (by decide)
    have hchar := Analysis.isPolynomialChar_of_mem_displayChars places hfinite 'i' hi
    exact absurd hchar (by decide)
  · intro hinfinite
    rw [isFinite_eq_all, List.all_eq_false] at hinfinite
    obtain ⟨x, hx, hnot⟩ := hinfinite
    obtain ⟨s, hs⟩ := (h x hx).resolve_left hnot
    have hk : Coefficient.ofReal places x
        ∈ [p.a, p.b, p.c].map (Coefficient.ofReal places) := List.mem_map_of_mem hx
    rw [hs, Coefficient.ofReal_infinite] at hk
    have hne : "infinity".toList ≠ [] := by decide
    exact numeral_infix_displayTerms hk rfl rfl hne

end

end Polynomial

/-! ## accounts -/

namespace Analysis

section
variable {places : Int} {text : List Char} {c : Curve}

theorem exists_of_equationPolynomial? {left right : List Char} {r : Polynomial}
    (hsides : equationSides? text = some (left, right)) (h : equationPolynomial? text = some r) :
    ∃ p q, extract? left = some p ∧ extract? right = some q ∧ r = p.sub q := by
  unfold equationPolynomial? at h
  rw [hsides] at h
  obtain ⟨p, hp, h⟩ := Option.bind_eq_some_iff.mp (show (extract? left).bind _ = some r from h)
  obtain ⟨q, hq, h⟩ := Option.bind_eq_some_iff.mp (show (extract? right).bind _ = some r from h)
  exact ⟨p, q, hp, hq, (Option.some.inj h).symm⟩

/-- **Where an account comes from.** -/
theorem curve_cases (h : analyze places text = .curve c) :
    (∃ p, extract? (functionBody (Text.trim text)) = some p ∧
      c = .ofPolynomial places .function p) ∨
    ∃ left right p q, equationSides? (Text.trim text) = some (left, right) ∧
      extract? left = some p ∧ extract? right = some q ∧
      c = .ofPolynomial places .equation (p.sub q) := by
  unfold analyze at h
  dsimp only at h
  generalize Text.trim text = clean at *
  split at h
  · cases h
  · generalize Category.classify clean = category at h
    cases category with
    | function =>
      have h : ofFunction places clean = .curve c := h
      unfold ofFunction at h
      dsimp only at h
      split at h
      · rename_i p hp
        exact .inl ⟨p, hp, (Analysis.curve.inj h).symm⟩
      · cases h
    | equation =>
      have h : ofEquation places clean = .curve c := h
      unfold ofEquation at h
      split at h
      · cases h
      · rename_i sides hsides
        obtain ⟨left, right⟩ := sides
        split at h
        · rename_i r hr
          obtain ⟨p, q, hp, hq, rfl⟩ := exists_of_equationPolynomial? hsides hr
          exact .inr ⟨left, right, p, q, hsides, hp, hq, (Analysis.curve.inj h).symm⟩
        · cases h
    | system =>
      have h : ofSystem places clean = .curve c := h
      unfold ofSystem at h
      split at h
      · split at h <;> cases h
      · cases h
    | inequality | derivative | integral | other => cases h

/-- The expression of an account whose coefficients are numbers. -/
theorem words_ofPolynomial {category : Category} {p : Polynomial} (h : p.IsNumeric) :
    ("infinity".toList <:+: (Curve.ofPolynomial places category p).graph.expression.toList
      ↔ p.isFinite = false) ∧
    ¬ "NaN".toList <:+: (Curve.ofPolynomial places category p).graph.expression.toList := by
  have hexpression : (Curve.ofPolynomial places category p).graph.expression.toList
      = 'y' :: '=' :: p.displayChars places := by
    rw [graph_ofPolynomial, String.toList_append]
    exact congrArg (['y', '='] ++ ·) String.toList_ofList
  rw [hexpression, ← Polynomial.infinity_infix_display h]
  constructor
  · rw [List.infix_cons_iff, List.infix_cons_iff, or_iff_right, or_iff_right]
    · exact fun hstart => absurd (List.cons_prefix_cons.mp hstart).1 (by decide)
    · exact fun hstart => absurd (List.cons_prefix_cons.mp hstart).1 (by decide)
  · intro hinfix
    have hN : 'N' ∈ 'y' :: '=' :: p.displayChars places := hinfix.subset (by decide)
    simp only [List.mem_cons, Char.reduceEq, false_or] at hN
    rcases Polynomial.mem_displayChars h hN with hchar | hchar
    · exact absurd hchar (by decide)
    · exact absurd hchar (by decide)

end

/-- **The coefficients of a function are finite, and those of an equation are unless its sides are
too far apart.**  Just then the expression to draw holds the word `infinity`; it never holds
`NaN`. -/
theorem curve_finite_unless_apart (places : Int) {text : List Char} {c : Curve}
    (h : analyze places text = .curve c) :
    ((c.category = .function ∧ c.polynomial.isFinite = true) ∨
      c.category = .equation ∧ ∃ left right p q,
        equationSides? (Text.trim text) = some (left, right) ∧
        extract? left = some p ∧ extract? right = some q ∧
        p.isFinite = true ∧ q.isFinite = true ∧ c.polynomial = p.sub q ∧
        (c.polynomial.isFinite = true ↔ Double.InRange p.a q.a ∧ Double.InRange p.b q.b ∧
          Double.InRange p.c q.c)) ∧
    ("infinity".toList <:+: c.graph.expression.toList ↔ c.polynomial.isFinite = false) ∧
    ¬ "NaN".toList <:+: c.graph.expression.toList := by
  rcases curve_cases h with ⟨p, hp, rfl⟩ | ⟨left, right, p, q, hsides, hp, hq, rfl⟩
  · have hfinite := Polynomial.isFinite_of_extract? hp
    rw [polynomial_ofPolynomial]
    exact ⟨.inl ⟨category_ofPolynomial _ _ _, hfinite⟩, words_ofPolynomial (.of_isFinite hfinite)⟩
  · have hfinite := Polynomial.isFinite_of_extract? hp
    have hfinite' := Polynomial.isFinite_of_extract? hq
    rw [polynomial_ofPolynomial]
    exact ⟨.inr ⟨category_ofPolynomial _ _ _, left, right, p, q, hsides, hp, hq, hfinite, hfinite',
      rfl, Polynomial.isFinite_sub_iff_inRange hfinite hfinite'⟩,
      words_ofPolynomial (Polynomial.isNumeric_sub hfinite hfinite')⟩

theorem curve_finite_line : ∃ c : Curve, analyze 4 ['2', 'x', '+', '1', '=', '5'] = .curve c ∧
    c.category = .equation ∧ c.polynomial.isFinite = true ∧
    ¬ "infinity".toList <:+: c.graph.expression.toList := by
  obtain ⟨p, hp⟩ : ∃ p, extract? ['2', 'x', '+', '1'] = some p :=
    Option.isSome_iff_exists.mp (by decide +kernel)
  obtain ⟨q, hq⟩ : ∃ q, extract? ['5'] = some q := Option.isSome_iff_exists.mp (by decide +kernel)
  have hsub : (p.sub q).isFinite = true := by
    have hboth : ((extract? ['2', 'x', '+', '1']).bind fun p => (extract? ['5']).map fun q =>
        (p.sub q).isFinite) = some true := by decide +kernel
    rw [hp, hq] at hboth
    exact Option.some.inj hboth
  have h : analyze 4 ['2', 'x', '+', '1', '=', '5'] = .curve (.ofPolynomial 4 .equation (p.sub q)) :=
    analyze_sides (by decide) (by decide) hp hq
  obtain ⟨-, hword, -⟩ := curve_finite_unless_apart 4 h
  have hpolynomial : (Curve.ofPolynomial 4 .equation (p.sub q)).polynomial.isFinite = true := by
    rw [polynomial_ofPolynomial]
    exact hsub
  refine ⟨_, h, category_ofPolynomial _ _ _, hpolynomial, fun hinfix => ?_⟩
  rw [hword.mp hinfix] at hpolynomial
  cases hpolynomial

/-- The sum of two numbers of magnitude 10 ^ 308 is no double. -/
theorem coefficients_not_always_finite : ¬ ∀ (places : Int) (text : List Char) (c : Curve),
    analyze places text = .curve c → c.polynomial.isFinite = true ∧
      ¬ "infinity".toList <:+: c.graph.expression.toList := by
  intro hall
  generalize hleft : '1' :: List.replicate 308 '0' ++ ['x'] = left at *
  generalize hright : '-' :: left = right
  have hboth : ((extract? left).bind fun p => (extract? right).map fun q =>
      (p.sub q).isFinite) = some false := by
    rw [← hright, ← hleft]
    decide +kernel
  obtain ⟨p, hp, hboth⟩ := Option.bind_eq_some_iff.mp hboth
  obtain ⟨q, hq, hinfinite⟩ := Option.map_eq_some_iff.mp hboth
  have hline : '\n' ∉ left := by
    rw [← hleft]
    decide
  have hline' : '\n' ∉ right := by
    rw [← hright, List.mem_cons]
    exact fun h => h.elim (by decide) hline
  have h := (hall 4 _ _ (analyze_sides hline hline' hp hq)).1
  rw [polynomial_ofPolynomial, hinfinite] at h
  cases h

end Analysis

end AlgebraDesk

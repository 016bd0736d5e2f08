import AlgebraDesk.Proofs.Plot.Multiples
import AlgebraDesk.Proofs.Plot.Printing

/-!
# The terms of polynomials with whole coefficients

Where all numerals of a polynomial are whole, its tree and its coefficients stand for one term: the
rules of products and sums give the same summands, and a minus sign goes into the coefficient
wherever it stands.

* `wholeTerm`           a whole coefficient times what stands behind it;
* `quadraticTerm_int`   the term of whole coefficients;
* `Entry.IsWhole`       an entry with a whole numeral;
* `term_treeOf`         the term of what is printed.
-/

namespace AlgebraDesk.Plot

open Symbolic

/-! ## whole coefficients -/

/-- A whole coefficient times what stands behind it. -/
def wholeTerm (n : Int) : Option Unknown → Term
  | none => .ofInt n
  | some u => multipleTerm n u

theorem wholeTerm_zero (unknown? : Option Unknown) : wholeTerm 0 unknown? = .zero := by
  cases unknown? with
  | none => rfl
  | some u =>
    show multipleTerm (0 : Int) u = .zero
    rw [Int.cast_zero]
    exact if_pos rfl

theorem negatedTerm_whole {n : Int} (hn : n ≠ 0) (unknown? : Option Unknown) :
    negatedTerm (wholeTerm n unknown?) = wholeTerm (-n) unknown? := by
  cases unknown? with
  | none =>
    show negatedTerm (.ofRat n) = .ofRat (-n : Int)
    rw [negatedTerm_ofRat, Int.cast_neg]
  | some u =>
    show negatedTerm (multipleTerm n u) = multipleTerm (-n : Int) u
    rw [negatedTerm_multiple (Int.cast_ne_zero.mpr hn), Int.cast_neg]

/-- The sum of a list, one summand after the other. -/
def sumTerms (t : Term) (ts : List Term) : Term := ts.foldl (fun t u => .sumOf [t, u]) t

/-- **The term of a polynomial with whole coefficients.** -/
theorem quadraticTerm_int (l m n : Int) : quadraticTerm (.int l) (.int m) (.int n)
    = sumTerms .zero
        [wholeTerm l (some .squared), wholeTerm m (some .plain), wholeTerm n none] := by
  have hsquare : Term.variable.pow (.ofInt 2) = Unknown.squared.term := rfl
  have hl : (coefficientTerm (.int l)).mul (Term.variable.pow (.ofInt 2))
      = wholeTerm l (some .squared) := by
    rw [hsquare]
    exact mul_unknown l .squared
  have hm : (coefficientTerm (.int m)).mul .variable = wholeTerm m (some .plain) :=
    mul_unknown m .plain
  unfold quadraticTerm
  rw [hl, hm]
  show _ = Term.sumOf [.sumOf [.sumOf [.zero, wholeTerm l (some .squared)],
    wholeTerm m (some .plain)], .ofInt n]
  rw [sumOf_zero_left]
  rfl

/-! ## entries with whole numerals -/

/-- An entry with a whole numeral; the coefficient is judged as its numeral shows it. -/
structure Entry.IsWhole (e : Entry) : Prop where
  spelling : e.spelling = .whole
  vanishes : e.k.vanishes = true ↔ e.d.significand = 0
  unit : e.k.isUnit = true → e.d.significand = 1

namespace Entry

/-- The whole number that an entry shows. -/
def integer (e : Entry) : Int := Double.signed e.k.negative e.d.significand

def term (e : Entry) : Term := wholeTerm e.integer e.unknown?

section
variable {e : Entry}

theorem term_monomial (h : e.IsWhole) :
    e.monomial.expression.term = wholeTerm e.d.significand e.unknown? := by
  unfold monomial
  rw [h.spelling]
  split
  · rename_i hnone
    rw [hnone]
    rfl
  · rename_i u hsome
    rw [hsome]
    split
    · rename_i hunit
      rw [h.unit hunit]
      exact u.term_expression
    · show (Term.ofInt e.d.significand).mul u.expression.term = _
      rw [u.term_expression]
      exact mul_unknown _ u

theorem term_negated (h : e.IsWhole) :
    e.monomial.negated.term = wholeTerm (-e.d.significand) e.unknown? := by
  have hnumeral : negatedTerm (.ofInt e.d.significand) = .ofRat (-e.d.significand : Int) := by
    rw [Int.cast_neg]
    exact negatedTerm_ofRat _
  unfold monomial
  rw [h.spelling]
  split
  · rename_i hnone
    rw [hnone]
    exact hnumeral
  · rename_i u hsome
    rw [hsome]
    split
    · rename_i hunit
      rw [h.unit hunit]
      show negatedTerm u.expression.term = multipleTerm (-1 : Int) u
      rw [u.term_expression]
      exact mul_unknown (-1 : Int) u
    · show (negatedTerm (.ofInt e.d.significand)).mul u.expression.term = _
      rw [u.term_expression, hnumeral]
      exact mul_unknown _ u

theorem term_firstTree (h : e.IsWhole) :
    (⟨e.k.negative, e.monomial⟩ : Signed).firstTree.term = e.term := by
  unfold Signed.firstTree term integer Double.signed
  cases e.k.negative with
  | false => exact term_monomial h
  | true => exact term_negated h

theorem term_tree (h : e.IsWhole) (hv : e.k.vanishes = false) (t : Expression) :
    (Signed.tree t ⟨e.k.negative, e.monomial⟩).term = Term.sumOf [t.term, e.term] := by
  have hmonomial := term_monomial h
  unfold Signed.tree term integer Double.signed
  cases e.k.negative with
  | false =>
    show Term.sumOf [t.term, e.monomial.expression.term] = _
    rw [hmonomial]
    rfl
  | true =>
    have hne : (e.d.significand : Int) ≠ 0 := by
      intro hzero
      rw [h.vanishes.mpr (Int.natCast_eq_zero.mp hzero)] at hv
      cases hv
    show Term.sumOf [t.term, negatedTerm e.monomial.expression.term] = _
    rw [hmonomial, negatedTerm_whole hne]
    rfl

theorem term_of_vanishes (h : e.IsWhole) (hv : e.k.vanishes = true) : e.term = .zero := by
  unfold term integer
  rw [h.vanishes.mp hv, Double.signed_eq_zero.mpr rfl]
  exact wholeTerm_zero _

end

end Entry

/-- **Behind the first term** every entry is one more summand. -/
theorem term_foldl {es : List Entry} (h : ∀ e ∈ es, e.IsWhole) (t : Expression) :
    ((es.filterMap Entry.signed?).foldl Signed.tree t).term
      = sumTerms t.term (es.map Entry.term) := by
  induction es generalizing t with
  | nil => rfl
  | cons e es ih =>
    rw [List.forall_mem_cons] at h
    rw [List.filterMap_cons]
    cases hv : e.k.vanishes with
    | true =>
      have hnone : e.signed? = none := if_pos hv
      show _ = sumTerms (Term.sumOf [t.term, e.term]) (es.map Entry.term)
      rw [hnone, Entry.term_of_vanishes h.1 hv, sumOf_zero_right]
      exact ih h.2 t
    | false =>
      have hsome : e.signed? = some ⟨e.k.negative, e.monomial⟩ := if_neg (Bool.eq_false_iff.mp hv)
      show _ = sumTerms (Term.sumOf [t.term, e.term]) (es.map Entry.term)
      rw [hsome, ← Entry.term_tree h.1 hv]
      exact ih h.2 _

/-- **The term of what is printed** is the sum of the entries. -/
theorem term_treeOf {es : List Entry} (h : ∀ e ∈ es, e.IsWhole) :
    (treeOf es).term = sumTerms .zero (es.map Entry.term) := by
  induction es with
  | nil => rfl
  | cons e es ih =>
    rw [List.forall_mem_cons] at h
    show _ = sumTerms (Term.sumOf [.zero, e.term]) (es.map Entry.term)
    unfold treeOf
    rw [List.filterMap_cons]
    cases hv : e.k.vanishes with
    | true =>
      have hnone : e.signed? = none := if_pos hv
      rw [hnone, Entry.term_of_vanishes h.1 hv, sumOf_zero_right]
      exact ih h.2
    | false =>
      have hsome : e.signed? = some ⟨e.k.negative, e.monomial⟩ := if_neg (Bool.eq_false_iff.mp hv)
      rw [hsome, sumOf_zero_left, ← Entry.term_firstTree h.1]
      exact term_foldl h.2 _

end AlgebraDesk.Plot

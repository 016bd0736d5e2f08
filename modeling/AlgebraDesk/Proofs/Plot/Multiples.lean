import AlgebraDesk.Plot.Formula
import AlgebraDesk.Proofs.Plot.Monomial

/-!
# Multiples of the unknown

A product of numbers and the unknown, or its square, comes to one number times it: the number is left
out when it is one, and nothing is left of the product when it is zero.  A minus sign goes into the
number.  Zero adds nothing to a sum.

* `multipleTerm`        a fraction times the unknown or its square;
* `productWith_pair`    a product of two factors, step by step;
* `mul_unknown`, `negatedTerm_multiple`   products that come to a multiple;
* `sumOf_zero_left`, `sumOf_zero_right`   sums with zero.
-/

namespace AlgebraDesk.Plot

open Symbolic

/-! ## multiples of the unknown -/

def Unknown.degree : Unknown → Int
  | .plain => 1
  | .squared => 2

def Unknown.term : Unknown → Term
  | .plain => .variable
  | .squared => .power .variable (.ofInt 2)

/-- A fraction times the unknown or its square. -/
def multipleTerm (q : Rat) (u : Unknown) : Term :=
  if q = 0 then .zero else if q = 1 then u.term else .product [.ofRat q, u.term]

section
variable {q : Rat} {n : Int}

theorem Unknown.term_expression (u : Unknown) : u.expression.term = u.term := by cases u <;> rfl

theorem isOne_ofRat (h : q ≠ 1) : (Term.ofRat q).isOne = false := beq_eq_false_iff_ne.mpr h

theorem isZero_ofRat (h : q ≠ 0) : (Term.ofRat q).isZero = false := beq_eq_false_iff_ne.mpr h

/-! ## the steps of a product -/

/-- The factors of a product, with those of nested products. -/
def gather (ts : List Term) : Gathered :=
  let simple := ts.filter fun t => !(t matches .product _)
  let nested := (ts.filter fun t => t matches .product _).flatMap Term.factors
  (simple ++ nested.flatMap Term.factors).foldl Gathered.push {}

/-- What a product makes of its factors. -/
def finishGathered (fuel : Nat) (g : Gathered) : Term :=
  let (c, parts) := powerFactors fuel 1 (collectPowers g.powers)
  let numerals := (collectPowers g.numerals).foldl (fun ps p => insertNumeral p.1 p.2 ps) []
  let numeralParts := (numerals.filter fun p => !p.2.isZero).map fun p => powerWith fuel p.1 p.2
  let (front, roots) := combine g.roots
  let (negative, rootParts) := rootFactors g.turns roots
  let c := Gathered.mulCoefficient c (.ofRat (if negative then -front else front))
  finish (Gathered.mulCoefficient g.coefficient c) (parts ++ numeralParts ++ rootParts)

theorem productWith_pair {t t' : Term} (fuel : Nat) (ht : t.isOne = false) (ht' : t'.isOne = false)
    (hscaled : scaled? [t, t'] = none) :
    productWith (fuel + 1) [t, t'] = finishGathered fuel (gather [t, t']) := by
  have hones : ([t, t'].filter fun t => !t.isOne) = [t, t'] := by
    simp only [List.filter_cons, ht, ht']
    rfl
  unfold productWith
  rw [hones]
  simp only [hscaled]
  generalize hg : List.foldl Gathered.push _ _ = g
  have hgather : gather [t, t'] = g := hg
  rw [hgather]
  rfl

theorem combine_nil : combine [] = (1, []) := by
  show ((1 : Rat) * 1, ([] : List Root)) = _
  rw [mul_one]

theorem rootFactors_nil : rootFactors 0 [] = (false, []) := by
  have hfloor : (0 : Rat).floor = 0 := rfl
  unfold rootFactors
  simp only [hfloor, Int.cast_zero, sub_zero]
  rfl

theorem collectPowers_variable (hn : n ≠ 0) :
    collectPowers [(.variable, .ofInt n)] = [(.variable, .ofInt n)] := by
  have hzero : (Scalar.ofInt n).isZero = false := isZero_ofRat (Int.cast_ne_zero.mpr hn)
  have hcoefficient : (Term.ofInt n).coefficient = (.ofInt n, .one) := by
    unfold Term.ofInt Term.coefficient
    simp only [hzero]
    rfl
  have hscale : Term.one.scale (.ofInt n) = .ofInt n := by
    show Term.number (.exact (n * 1)) = _
    rw [mul_one]
    rfl
  unfold collectPowers
  simp only [List.foldl_cons, List.foldl_nil, insertExponent, hcoefficient, List.flatMap_cons,
    List.map_cons, hzero, hscale]
  rfl

theorem powerFactors_unknown (u : Unknown) (fuel rounds : Nat) :
    powerFactors (fuel + 3) rounds [(.variable, .ofInt u.degree)] = (.one, [u.term]) := by
  cases u <;> rfl

/-- A coefficient that is not zero takes no factor in. -/
theorem settle_ofRat (ts : List Term) (hq : q ≠ 0) : settle (.ofRat q) ts = (.ofRat q, ts) := by
  show (if (Term.ofRat q).isZero then _ else (Term.ofRat q, ts)) = _
  rw [isZero_ofRat hq]
  rfl

theorem ofFactors_ofRat (ts : List Term) (hq : q ≠ 1) :
    Term.ofFactors (if (Term.ofRat q).isOne then ts else .ofRat q :: ts)
      = Term.ofFactors (.ofRat q :: ts) := by
  rw [isOne_ofRat hq]
  rfl

theorem finish_unknown (q : Rat) (u : Unknown) : finish (.ofRat q) [u.term] = multipleTerm q u := by
  unfold multipleTerm
  by_cases hzero : q = 0
  · have hsettle : settle (.ofRat 0) [u.term] = (.zero, []) := by cases u <;> rfl
    have hsorted : Term.sorted [] = [] := List.mergeSort_nil
    rw [if_pos hzero, hzero]
    unfold finish
    rw [hsettle]
    simp only [List.foldl_nil, List.filter_nil, hsorted]
    rfl
  · have hkept : Term.sorted ([u.term].filter fun t => !t.isNumber) = [u.term] := by
      cases u <;> exact List.mergeSort_singleton _
    have hfold : [u.term].foldl (fun c t =>
        if t.isNumber then Gathered.mulCoefficient c t else c) (.ofRat q) = .ofRat q := by
      cases u <;> rfl
    rw [if_neg hzero]
    unfold finish
    rw [settle_ofRat _ hzero]
    simp only [hfold, hkept]
    by_cases hone : q = 1
    · rw [if_pos hone, hone]
      cases u <;> rfl
    · rw [if_neg hone]
      cases u with
      | plain => exact ofFactors_ofRat [.variable] hone
      | squared => exact ofFactors_ofRat [Unknown.squared.term] hone

theorem finish_number (q : Rat) : finish (.ofRat q) [] = .ofRat q := by
  have hsettle : settle (.ofRat q) [] = (.ofRat q, []) := by
    by_cases hzero : q = 0
    · rw [hzero]
      rfl
    · exact settle_ofRat [] hzero
  have hsorted : Term.sorted [] = [] := List.mergeSort_nil
  unfold finish
  rw [hsettle]
  simp only [List.foldl_nil, List.filter_nil, hsorted]
  by_cases hone : q = 1
  · rw [hone]
    rfl
  · exact ofFactors_ofRat [] hone

theorem mulCoefficient_one (q : Rat) : Gathered.mulCoefficient (.ofRat q)
    (Gathered.mulCoefficient .one (.ofRat 1)) = .ofRat q := by
  show Term.number (.exact (q * (1 * 1))) = _
  rw [mul_one, mul_one]
  rfl

theorem finishGathered_unknown (u : Unknown) (fuel : Nat) :
    finishGathered (fuel + 3)
      { coefficient := .ofRat q, powers := [(.variable, .ofInt u.degree)] } = multipleTerm q u := by
  have hdegree : u.degree ≠ 0 := by cases u <;> decide
  unfold finishGathered
  simp only [collectPowers_variable hdegree, powerFactors_unknown, combine_nil, rootFactors_nil]
  rw [← finish_unknown]
  exact congrArg (finish · [u.term]) (mulCoefficient_one q)

theorem finishGathered_number (fuel : Nat) :
    finishGathered (fuel + 3) { coefficient := .ofRat q } = .ofRat q := by
  have hpowers : powerFactors (fuel + 3) 1 (collectPowers []) = (.one, []) := rfl
  unfold finishGathered
  simp only [hpowers, combine_nil, rootFactors_nil]
  exact (congrArg (finish · []) (mulCoefficient_one q)).trans (finish_number q)

/-! ## products with a number -/

/-- These products are not deep. -/
theorem exists_depth : ∃ fuel, Term.ruleDepth = fuel + 3 + 1 := ⟨396, rfl⟩

section
variable {t t' : Term} (ht : t.isOne = false) (ht' : t'.isOne = false)
  (hscaled : scaled? [t, t'] = none)

include ht ht' hscaled

theorem productOf_unknown {u : Unknown} (hgather : gather [t, t']
      = { coefficient := .ofRat q, powers := [(.variable, .ofInt u.degree)] }) :
    Term.productOf [t, t'] = multipleTerm q u := by
  obtain ⟨fuel, hfuel⟩ := exists_depth
  unfold Term.productOf
  rw [hfuel, productWith_pair _ ht ht' hscaled, hgather]
  exact finishGathered_unknown u fuel

theorem productOf_number (hgather : gather [t, t'] = { coefficient := .ofRat q }) :
    Term.productOf [t, t'] = .ofRat q := by
  obtain ⟨fuel, hfuel⟩ := exists_depth
  unfold Term.productOf
  rw [hfuel, productWith_pair _ ht ht' hscaled, hgather]
  exact finishGathered_number fuel

end

/-- **A fraction times the unknown.** -/
theorem mul_unknown (q : Rat) (u : Unknown) : (Term.ofRat q).mul u.term = multipleTerm q u := by
  by_cases hone : q = 1
  · rw [hone]
    cases u <;> rfl
  · have hcoefficient : Gathered.mulCoefficient .one (.ofRat q) = .ofRat q :=
      congrArg Term.ofRat (one_mul q)
    have hgather : gather [.ofRat q, u.term]
        = { coefficient := Gathered.mulCoefficient .one (.ofRat q)
            powers := [(.variable, .ofInt u.degree)] } := by cases u <;> rfl
    rw [hcoefficient] at hgather
    exact productOf_unknown (isOne_ofRat hone) (by cases u <;> rfl) (by cases u <;> rfl) hgather

/-- The coefficient behind a minus sign. -/
theorem mulCoefficient_minusOne (q : Rat) :
    Gathered.mulCoefficient (Gathered.mulCoefficient .one .minusOne) (.ofRat q) = .ofRat (-q) := by
  have hproduct : 1 * ((-1 : Int) : Rat) * q = -q := by
    rw [one_mul, Int.cast_neg, Int.cast_one, neg_one_mul]
  exact congrArg Term.ofRat hproduct

theorem isOne_minusOne : Term.minusOne.isOne = false := isOne_ofRat (by decide)

/-- **A minus sign goes into the fraction.** -/
theorem negatedTerm_multiple (hq : q ≠ 0) (u : Unknown) :
    negatedTerm (multipleTerm q u) = multipleTerm (-q) u := by
  unfold multipleTerm
  rw [if_neg hq]
  by_cases hone : q = 1
  · rw [if_pos hone, hone]
    exact mul_unknown (-1) u
  · have hgather : gather [.minusOne, .product [.ofRat q, u.term]]
        = { coefficient := Gathered.mulCoefficient (Gathered.mulCoefficient .one .minusOne)
              (.ofRat q)
            powers := [(.variable, .ofInt u.degree)] } := by cases u <;> rfl
    rw [mulCoefficient_minusOne] at hgather
    rw [if_neg hone]
    exact productOf_unknown isOne_minusOne rfl (by cases u <;> rfl) hgather

theorem negatedTerm_ofRat (q : Rat) : negatedTerm (.ofRat q) = .ofRat (-q) := by
  by_cases hone : q = 1
  · rw [hone]
    rfl
  · have hgather : gather [.minusOne, .ofRat q]
        = { coefficient := Gathered.mulCoefficient (Gathered.mulCoefficient .one .minusOne)
              (.ofRat q) } := rfl
    rw [mulCoefficient_minusOne] at hgather
    exact productOf_number isOne_minusOne (isOne_ofRat hone) rfl hgather

end

/-! ## sums -/

theorem eq_zero_of_rational? {t : Term} (h : t.rational? = some 0) : t = .zero := by
  cases t with
  | number n =>
    cases n with
    | exact q =>
      have hq : q = 0 := Option.some.inj h
      rw [hq]
      rfl
    | decimal x => cases h
    | infinite negative => cases h
    | undefined => cases h
  | _ => cases h

theorem sumOf_singleton (t : Term) : Term.sumOf [t] = t := by
  unfold Term.sumOf
  by_cases h : t.rational? = some 0
  · rw [eq_zero_of_rational? h]
    rfl
  · have hkept : (t.rational? != some 0) = true := bne_iff_ne.mpr h
    rw [List.filter_cons_of_pos (p := fun t : Term => t.rational? != some 0) hkept]
    rfl

/-- An exact zero does not count, wherever it stands. -/
theorem sumOf_zero (front back : List Term) :
    Term.sumOf (front ++ .zero :: back) = Term.sumOf (front ++ back) := by
  have hzero : ¬ (Term.zero.rational? != some 0) = true := by decide
  unfold Term.sumOf
  rw [List.filter_append, List.filter_append,
    List.filter_cons_of_neg (p := fun t : Term => t.rational? != some 0) hzero]

theorem sumOf_zero_right (t : Term) : Term.sumOf [t, .zero] = t :=
  (sumOf_zero [t] []).trans (sumOf_singleton t)

theorem sumOf_zero_left (t : Term) : Term.sumOf [.zero, t] = t :=
  (sumOf_zero [] [t]).trans (sumOf_singleton t)

end AlgebraDesk.Plot

import AlgebraDesk.Proofs.Analysis.Reading
import AlgebraDesk.Proofs.Analysis.Shape
import AlgebraDesk.Proofs.Decimal.Written
import AlgebraDesk.Proofs.Double.Doubling

/-!
# No handler faults

Stage by stage the analysis that can fault does what the other one does.  A double that is written
without a point is finite and has few digits; the divisors are `b`, which was compared with zero, and
twice an `a` that is not zero; a root is taken of positive numbers only; items are taken of as many
roots, sides and lines as there are.  What is left is the display precision, which must not be larger
than a number can be asked for.

* `display_eq`, `polynomialText_eq`   numbers and polynomials as text;
* `ofLine_eq`, `ofParabola_eq`        lines and parabolas;
* `handle_eq`                         the handler of any category;
* `analyze_never_faults`              any text: its category and the shape of its result.
-/

namespace AlgebraDesk.Analysis

namespace Checked

open Curve (onAxis)
open Decimal (digits maxIntegerDigits mostDigits tenTo)
open Double (Magnitude infinityCode ofCode)
open Quadratic (clean)

/-! ## numbers as text -/

section
variable {places : Int}

/-- A whole number of ones has few digits. -/
theorem length_whole {code : Nat} (h : code < infinityCode)
    (hwhole : (Magnitude.ofCode code).isWhole = true) :
    (digits (Magnitude.ofCode code).whole).length ≤ maxIntegerDigits := by
  have hunits := Decimal.fixedUnits_of_units 0 (Decimal.units_of_isWhole hwhole)
  have hlt := Decimal.whole_lt 0 h
  rw [hunits, Nat.mul_div_cancel _ (Decimal.tenTo_pos 0)] at hlt
  exact (Decimal.length_digits_le hlt (by decide)).trans (by decide)

theorem integerText_eq (negative : Bool) {n : Nat} (h : (digits n).length ≤ maxIntegerDigits) :
    integerText (Double.signed negative n)
      = .ok (String.ofList (Decimal.signChars negative n ++ digits n)) := by
  have habs : (Double.signed negative n).natAbs = n := by cases negative <;> simp [Double.signed]
  unfold integerText
  simp only [habs, if_neg (Nat.not_lt.mpr h)]
  cases negative with
  | false =>
    have hpos : ¬ Double.signed false n < 0 := Int.not_lt.mpr (Int.natCast_nonneg n)
    rw [if_neg hpos]
    rfl
  | true =>
    by_cases hn : n = 0
    · rw [hn]
      rfl
    · have hneg : Double.signed true n < 0 := by
        unfold Double.signed
        rw [if_pos rfl]
        omega
      unfold Decimal.signChars
      rw [if_pos hneg, Bool.true_and, bne_iff_ne.mpr hn]
      rfl

/-- **A double is shown without a fault**: what is written as an integer is one. -/
theorem display_eq (hplaces : places ≤ Value.placesLimit) (x : Float) :
    display places x = .ok (Decimal.display places x) := by
  have hfixed : fixedText places x = .ok (Decimal.display places x) :=
    if_neg (Int.not_lt.mpr hplaces)
  unfold display
  cases hfinite : x.isFinite with
  | false => rfl
  | true =>
    obtain ⟨negative, code, hcode, rfl⟩ := Double.eq_ofCode_of_isFinite hfinite
    have hform := @Double.form_ofCode negative code hcode
    cases hwhole : (Magnitude.ofCode code).isWhole with
    | false =>
      have hisWhole : Double.isWhole (ofCode negative code) = false := by
        unfold Double.isWhole
        rw [hform]
        exact hwhole
      rw [hisWhole]
      exact hfixed
    | true =>
      have hisWhole : Double.isWhole (ofCode negative code) = true := by
        unfold Double.isWhole
        rw [hform]
        exact hwhole
      have hpart : integerPart (ofCode negative code)
          = .ok (Double.signed negative (Magnitude.ofCode code).whole) := by
        have htruncate : Double.truncate? (ofCode negative code)
            = some (Double.signed negative (Magnitude.ofCode code).whole) := by
          unfold Double.truncate?
          rw [hform]
        simp only [integerPart, Value.readInteger, htruncate]
      have htext : Decimal.display places (ofCode negative code)
          = String.ofList (Decimal.signChars negative (Magnitude.ofCode code).whole
              ++ digits (Magnitude.ofCode code).whole) := by
        unfold Decimal.display Decimal.displayMagnitude
        simp only [hform, hwhole, if_true]
      rw [hisWhole, hpart, htext]
      exact integerText_eq negative (length_whole hcode hwhole)

theorem pointText_eq (hplaces : places ≤ Value.placesLimit) (p : Point) :
    pointText places p = .ok (p.display places) := by
  unfold pointText
  rw [display_eq hplaces, display_eq hplaces]
  rfl

theorem coefficient_eq (hplaces : places ≤ Value.placesLimit) (x : Float) :
    coefficient places x = .ok (.ofReal places x) := by
  unfold coefficient
  rw [display_eq hplaces]
  rfl

theorem polynomialText_eq (hplaces : places ≤ Value.placesLimit) (p : Polynomial) :
    polynomialText places p = .ok (p.display places) := by
  unfold polynomialText
  rw [coefficient_eq hplaces, coefficient_eq hplaces, coefficient_eq hplaces]
  rfl

/-! ## divisors and roots -/

variable {a b : Float}

theorem divide_eq {x y : Float} (h : (y == 0) = false) : divide x y = .ok (x / y) := by
  unfold divide
  rw [h]
  rfl

/-- **The roots are found without a fault** when `a` is not zero. -/
theorem roots_eq (ha : (a == 0) = false) (b d : Float) : roots a b d = .ok (Quadratic.roots a b d) := by
  have htwo := Double.two_mul_beq_zero ha
  unfold roots Quadratic.roots
  by_cases hd : d > 0
  · have hroot : squareRoot d = .ok d.sqrt := if_neg (Double.not_lt_zero hd)
    rw [if_pos hd, if_pos hd, hroot, ok_bind, divide_eq htwo, divide_eq htwo]
    rfl
  · rw [if_neg hd, if_neg hd]
    by_cases hzero : (d == 0) = true
    · rw [if_pos hzero, if_pos hzero, divide_eq htwo]
      rfl
    · rw [if_neg hzero, if_neg hzero]
      rfl

theorem vertex_eq (ha : (a == 0) = false) (b c : Float) :
    vertex a b c = .ok (Quadratic.vertex a b c) := by
  unfold vertex
  rw [divide_eq (Double.two_mul_beq_zero ha)]
  rfl

theorem solveLinear_eq (text : List Char) : solveLinear text = .ok (solveLinear? text) := by
  unfold solveLinear solveLinear?
  rw [equationPolynomial_eq, ok_bind]
  cases equationPolynomial? text with
  | none => rfl
  | some p =>
    show (if (p.a != 0 || p.b == 0) = true then (.ok none : Except Fault (Option Float)) else _)
      = .ok (if (p.a != 0 || p.b == 0) = true then none else some (clean (-p.c / p.b)))
    split
    · rfl
    · rename_i hguard
      rw [Bool.or_eq_true, not_or, Bool.not_eq_true] at hguard
      rw [divide_eq (Bool.eq_false_iff.mpr hguard.2)]
      rfl

/-! ## lines and parabolas -/

theorem lineRoots_eq (p : Polynomial) :
    lineRoots p = .ok (if p.b != 0 then [onAxis (clean (-p.c / p.b))] else []) := by
  unfold lineRoots
  split
  · rename_i hb
    rw [divide_eq (by simpa [bne] using hb)]
    rfl
  · rfl

theorem lineText_eq (hplaces : places ≤ Value.placesLimit) (c : String) (roots : List Point) :
    lineText places c roots = .ok (match roots with
      | r :: _ => "2) Find root x=" ++ Decimal.display places r.x ++ " and y-intercept (0, " ++ c
          ++ ")."
      | [] => "2) No root (horizontal line); y-intercept (0, " ++ c ++ ").") := by
  cases roots with
  | nil => rfl
  | cons r rest =>
    show (display places r.x >>= fun x => _) = _
    rw [display_eq hplaces]
    rfl

theorem ofLine_eq (hplaces : places ≤ Value.placesLimit) (category : Category) (p : Polynomial) :
    ofLine places category p = .ok (Curve.ofLine places category p) := by
  unfold ofLine
  rw [polynomialText_eq hplaces, ok_bind, lineRoots_eq, ok_bind, display_eq hplaces, ok_bind,
    lineText_eq hplaces, ok_bind, display_eq hplaces, ok_bind]
  rfl

/-- Two roots, one or none are told apart by the length of their list. -/
theorem tellRoots_eq (hplaces : places ≤ Value.placesLimit) (two : String → String → String)
    (one : String → String) (none : String) (roots : List Float) :
    (if roots.length == 2 then do
        return two (← display places (← item roots 0)) (← display places (← item roots 1))
      else if !roots.isEmpty then do return one (← display places (← item roots 0))
      else return none : Except Fault String)
      = .ok (match roots with
        | [x, y] => two (Decimal.display places x) (Decimal.display places y)
        | x :: _ => one (Decimal.display places x)
        | [] => none) := by
  match roots with
  | [] => rfl
  | [x] =>
    show (display places x >>= fun t => _) = _
    rw [display_eq hplaces]
    rfl
  | [x, y] =>
    show (display places x >>= fun t => display places y >>= fun t' => _) = _
    rw [display_eq hplaces, display_eq hplaces]
    rfl
  | x :: _ :: _ :: _ =>
    show (display places x >>= fun t => _) = _
    rw [display_eq hplaces]
    rfl

theorem rootsText_eq (hplaces : places ≤ Value.placesLimit) (roots : List Float) :
    rootsText places roots = .ok (Curve.rootsText places roots) :=
  tellRoots_eq hplaces (fun x y => "roots x=" ++ x ++ ", x=" ++ y)
    (fun x => "repeated root x=" ++ x) "no real roots" roots

theorem ofParabola_eq (hplaces : places ≤ Value.placesLimit) (category : Category) {p : Polynomial}
    (ha : p.isLinear = false) :
    ofParabola places category p = .ok (Curve.ofParabola places category p) := by
  unfold ofParabola
  simp only [vertex_eq ha, roots_eq ha, polynomialText_eq hplaces, display_eq hplaces,
    rootsText_eq hplaces, pointText_eq hplaces, ok_bind]
  rfl

/-- **The account of a curve is given without a fault.** -/
theorem ofPolynomial_eq (hplaces : places ≤ Value.placesLimit) (category : Category)
    (p : Polynomial) : ofPolynomial places category p = .ok (Curve.ofPolynomial places category p) := by
  unfold ofPolynomial Curve.ofPolynomial
  cases ha : p.isLinear with
  | false => exact ofParabola_eq hplaces category ha
  | true => exact ofLine_eq hplaces category p

end

/-! ## handlers -/

section
variable {places : Int}

theorem ofFunction_eq (hplaces : places ≤ Value.placesLimit) (text : List Char) :
    ofFunction places text = .ok (Analysis.ofFunction places text) := by
  unfold ofFunction Analysis.ofFunction
  simp only [extract_eq, ok_bind]
  cases Polynomial.extract? (functionBody text) with
  | none => rfl
  | some p =>
    simp only [ofPolynomial_eq hplaces, ok_bind]
    rfl

/-- One equality sign makes two sides. -/
theorem equationSides?_isNone (text : List Char) :
    (equationSides? text).isNone = decide (text.count '=' ≠ 1) := by
  have hlength := Text.length_pieces (· == '=') text
  have hcount : text.countP (· == '=') = text.count '=' := rfl
  rw [hcount] at hlength
  unfold equationSides?
  match Text.pieces (· == '=') text, hlength with
  | [], h => simp at h
  | [_], h => simp at h; simp [h]
  | [_, _], h => simp at h; simp [← h]
  | _ :: _ :: _ :: _, h => simp at h; simp [← h]

theorem ofEquation_eq (hplaces : places ≤ Value.placesLimit) (text : List Char) :
    ofEquation places text = .ok (Analysis.ofEquation places text) := by
  have hsides := equationSides?_isNone text
  unfold ofEquation Analysis.ofEquation
  cases h : equationSides? text with
  | none =>
    rw [h] at hsides
    rw [if_pos (of_decide_eq_true hsides.symm)]
    rfl
  | some sides =>
    rw [h] at hsides
    rw [if_neg (of_decide_eq_false hsides.symm), equationPolynomial_eq, ok_bind]
    cases equationPolynomial? text with
    | none => rfl
    | some p =>
      simp only [ofPolynomial_eq hplaces, ok_bind]
      rfl

theorem systemSolutions_eq (text : List Char) :
    systemSolutions text = .ok (systemSolutions? text) := by
  unfold systemSolutions systemSolutions?
  match Text.inkedLines text with
  | [] => rfl
  | [_] => rfl
  | [first, second] =>
    show (solveLinear first >>= fun x? => solveLinear second >>= fun y? => _) = .ok
      (solveLinear? first >>= fun x => solveLinear? second >>= fun y => some (x, y))
    rw [solveLinear_eq, solveLinear_eq, ok_bind, ok_bind]
    cases solveLinear? first <;> cases solveLinear? second <;> rfl
  | _ :: _ :: _ :: _ => rfl

theorem ofSystem_eq (hplaces : places ≤ Value.placesLimit) (text : List Char) :
    ofSystem places text = .ok (Analysis.ofSystem places text) := by
  unfold ofSystem Analysis.ofSystem
  rw [systemSolutions_eq, ok_bind]
  cases systemSolutions? text with
  | none => rfl
  | some solutions =>
    obtain ⟨x, x'⟩ := solutions
    simp only [display_eq hplaces, ok_bind]
    split <;> rfl

/-- **The handler of every category gives the analysis of that category.** -/
theorem handle_eq (hplaces : places ≤ Value.placesLimit) (text : List Char) (category : Category) :
    handle places text category = .ok (ofCategory places text category) := by
  cases category with
  | function => exact ofFunction_eq hplaces text
  | equation => exact ofEquation_eq hplaces text
  | system => exact ofSystem_eq hplaces text
  | inequality | derivative | integral | other => rfl

theorem analyze_eq (hplaces : places ≤ Value.placesLimit) (text? : Option (List Char)) :
    analyze places text? = Analysis.analyze places (text?.getD []) := by
  unfold analyze Analysis.analyze
  simp only [handle_eq hplaces]

end

end Checked

/-! ## categories -/

section
variable {places : Int}

theorem category_ofPolynomial (places : Int) (category : Category) (p : Polynomial) :
    (Curve.ofPolynomial places category p).category = category := by
  unfold Curve.ofPolynomial
  split <;> rfl

/-- **A handler answers in its own category**, also when it has nothing to tell. -/
theorem category_ofCategory (places : Int) (text : List Char) (category : Category) :
    (ofCategory places text category).category = category := by
  cases category with
  | function =>
    show (ofFunction places text).category = _
    unfold ofFunction
    simp only
    split
    · exact category_ofPolynomial places .function _
    · rfl
  | equation =>
    show (ofEquation places text).category = _
    unfold ofEquation
    split
    · rfl
    · split
      · exact category_ofPolynomial places .equation _
      · rfl
  | system =>
    show (ofSystem places text).category = _
    unfold ofSystem
    split
    · split <;> rfl
    · rfl
  | inequality | derivative | integral | other => rfl

theorem category_analyze (places : Int) (text : List Char) :
    (analyze places text).category = Category.classify text := by
  unfold analyze
  simp only
  split
  · rename_i hempty
    have hnothing : Category.classify text = .other := by
      unfold Category.classify
      rw [List.isEmpty_iff.mp hempty]
      decide
    exact hnothing.symm
  · rw [category_ofCategory]
    unfold Category.classify
    rw [Text.trim_trim]

/-- **No text makes a handler fault.**  Every handler gives the analysis of its category, so the
answer for a handler that faults is never given; the category of the result is that of the text, for
a missing one that of the empty text; and every result, of whichever kind, is put together without a
fault and has the shape. -/
theorem analyze_never_faults (hplaces : places ≤ Value.placesLimit) :
    (∀ (text : List Char) (category : Category),
      Checked.handle places text category = .ok (ofCategory places text category)) ∧
    (∀ text? : Option (List Char),
      Checked.analyze places text? = analyze places (text?.getD []) ∧
      (analyze places (text?.getD [])).category = Category.classify (text?.getD []) ∧
      HasShape (Category.classify (text?.getD [])) (analyze places (text?.getD [])).toValue) ∧
    ∀ r : Analysis, Checked.toValue r = .ok r.toValue ∧ HasShape r.category r.toValue := by
  refine ⟨Checked.handle_eq hplaces, fun text? => ?_, fun r =>
    ⟨Checked.toValue_eq r, hasShape_toValue r⟩⟩
  have hcategory := category_analyze places (text?.getD [])
  refine ⟨Checked.analyze_eq hplaces text?, hcategory, ?_⟩
  rw [← hcategory]
  exact hasShape_toValue _

/-- At the usual precision, for a line without a slope and for no text. -/
theorem analyze_never_faults_usual : (4 : Int) ≤ Value.placesLimit ∧
    Checked.handle 4 ['0', 'x', '=', '5'] .equation
      = .ok (ofCategory 4 ['0', 'x', '=', '5'] .equation) ∧
    (analyze 4 ['0', 'x', '=', '5']).category = .equation ∧
    Checked.analyze 4 none = ofNothing := by
  have hplaces : (4 : Int) ≤ Value.placesLimit := by decide
  obtain ⟨hhandle, hanalyze, -⟩ := analyze_never_faults hplaces
  have hequation : Category.classify ['0', 'x', '=', '5'] = .equation := by decide
  refine ⟨hplaces, hhandle _ _, ?_, (hanalyze none).1⟩
  rw [← hequation]
  exact (hanalyze (some ['0', 'x', '=', '5'])).2.1

end

end AlgebraDesk.Analysis

import AlgebraDesk.Analysis.Analyze
import AlgebraDesk.Proofs.Category
import AlgebraDesk.Value.Display

/-!
# Analyzing what is printed

A polynomial that is printed, made into a function or an equation and analyzed gives the same
account as its coefficients do.  The expression to draw is such a text, so analyzing it again
changes nothing.

* `analyze_y`, `analyze_f`, `analyze_equation`   texts that hold a polynomial;
* `graph_ofPolynomial`      the expression of a curve;
* `ofValues_int`            coefficients that are small integers;
* `analyze_printed`         the text and the coefficients agree.
-/

namespace AlgebraDesk.Analysis

open AlgebraDesk.Polynomial (extract? extract?_ofIntegers isPolynomialChar isFinite_iff ofIntegers
  isFinite_ofIntegers)
open Category (isPlain_of_polynomial)
open Double (integer IsSmall)

section
variable {places : Int} {cs : List Char} {p q : Polynomial}

/-! ## texts that hold a polynomial -/

theorem analyze_of_trim {text : List Char} (htrim : Text.trim text = text) (hne : text ≠ []) :
    analyze places text = ofCategory places text (Category.classify text) := by
  unfold analyze
  rw [htrim]
  exact if_neg fun h => hne (List.isEmpty_iff.mp h)

theorem analyze_of_ofTrimmed {text : List Char} {k : Category} (hk : k ≠ .other)
    (h : Category.ofTrimmed (Text.trim text) = k) :
    analyze places text = ofCategory places (Text.trim text) k := by
  have hclassify : Category.classify (Text.trim text) = k := by
    unfold Category.classify
    rw [Text.trim_trim, h]
  have hne : (Text.trim text).isEmpty = false := by
    rw [List.isEmpty_eq_false_iff]
    intro hnil
    rw [hnil] at h
    exact hk h.symm
  unfold analyze
  simp only [hne, hclassify]
  rfl

theorem ofFunction_polynomial {text : List Char} (hbody : Category.dropFunction? text = some cs)
    (hcs : ∀ c ∈ cs, isPolynomialChar c = true) (hextract : extract? cs = some p) :
    ofFunction places text = .curve (.ofPolynomial places .function p) := by
  have e : functionBody text = cs := by
    unfold functionBody
    rw [hbody]
    exact (isPlain_of_polynomial hcs).trim
  unfold ofFunction
  simp only [e, hextract]

theorem analyze_y (hcs : ∀ c ∈ cs, isPolynomialChar c = true) (hextract : extract? cs = some p) :
    analyze places ('y' :: '=' :: cs) = .curve (.ofPolynomial places .function p) := by
  have hplain := isPlain_of_polynomial hcs
  rw [analyze_of_trim (Category.isPlain_y hplain).trim (List.cons_ne_nil _ _),
    Category.classify_y hplain]
  exact ofFunction_polynomial (Category.dropFunction?_y cs) hcs hextract

theorem analyze_f (hcs : ∀ c ∈ cs, isPolynomialChar c = true) (hextract : extract? cs = some p) :
    analyze places ("f(x)=".toList ++ cs) = .curve (.ofPolynomial places .function p) := by
  have hplain := isPlain_of_polynomial hcs
  rw [analyze_of_trim (Category.isPlain_f hplain).trim (List.cons_ne_nil _ _),
    Category.classify_f hplain]
  exact ofFunction_polynomial (Category.dropFunction?_f cs) hcs hextract

theorem equationSides?_polynomial (hcs : ∀ c ∈ cs, isPolynomialChar c = true) :
    equationSides? (cs ++ ['=', '0']) = some (cs, ['0']) := by
  have hcut : ∀ c ∈ cs, (c == '=') = false :=
    fun c hc => Category.beq_of_isPolynomialChar (hcs c hc) '=' (by decide)
  have hpieces : Text.pieces (· == '=') (cs ++ ['=', '0']) = [cs, ['0']] :=
    Text.pieces_append hcut rfl
  unfold equationSides?
  rw [hpieces]

theorem extract?_zero : extract? ['0'] = some Polynomial.zero := by
  have hzero : (0 : Float) = integer 0 := Double.integer_zero.symm
  have hreads := Coefficient.readsAs_integer 0 (show IsSmall 0 by decide)
  have hfinite : (integer 0).isFinite = true := Double.isFinite_integer (by decide)
  have hextract : extract? _ = some (⟨integer 0, integer 0, integer 0⟩ : Polynomial) :=
    Polynomial.extract?_displayTerms hreads hreads hreads
      (isFinite_iff.mpr ⟨hfinite, hfinite, hfinite⟩)
  have htext : Polynomial.displayTerms (.ofReal 0 (integer 0)) (.ofReal 0 (integer 0))
      (.ofReal 0 (integer 0)) = ['0'] := by decide +kernel
  rw [htext, ← hzero] at hextract
  exact hextract

/-- Taking zero off changes nothing. -/
theorem sub_zero (hp : p.isFinite = true) : p.sub Polynomial.zero = p := by
  have h : ∀ x : Float, x.isFinite = true → x - 0 = x := by
    intro x hx
    obtain ⟨negative, code, hcode, rfl⟩ := Double.eq_ofCode_of_isFinite hx
    exact Double.sub_zero_ofCode hcode
  obtain ⟨ha, hb, hc⟩ := isFinite_iff.mp hp
  show (⟨p.a - 0, p.b - 0, p.c - 0⟩ : Polynomial) = p
  rw [h p.a ha, h p.b hb, h p.c hc]

theorem analyze_equation (hne : cs ≠ []) (hcs : ∀ c ∈ cs, isPolynomialChar c = true)
    (hextract : extract? cs = some p) (hp : p.isFinite = true) :
    analyze places (cs ++ ['=', '0']) = .curve (.ofPolynomial places .equation p) := by
  have hplain := Category.isPlain_equation (isPlain_of_polynomial hcs)
  have hsides := equationSides?_polynomial hcs
  have hpolynomial : equationPolynomial? (cs ++ ['=', '0']) = some p := by
    unfold equationPolynomial?
    rw [hsides]
    show (extract? cs >>= fun p => extract? ['0'] >>= fun q => some (p.sub q)) = some p
    rw [hextract, extract?_zero]
    exact congrArg some (sub_zero hp)
  rw [analyze_of_trim hplain.trim (List.append_ne_nil_of_left_ne_nil hne _),
    Category.classify_equation hne hcs]
  show ofEquation places _ = _
  unfold ofEquation
  rw [hsides, hpolynomial]

/-! ## the expression of a curve -/

/-- **The expression of a curve is its polynomial**; a line leaves out a term that vanishes anyway,
whatever the sign of its zero. -/
theorem graph_ofPolynomial {category : Category} :
    (Curve.ofPolynomial places category p).graph.expression = "y=" ++ p.display places := by
  unfold Curve.ofPolynomial
  split
  · rename_i hlinear
    have hsum : ∀ (x : Float) (es : List (Coefficient × List Char)), (x == 0) = true →
        Polynomial.displaySum true ((.ofReal places x, ['x', '^', '2']) :: es)
          = Polynomial.displaySum true es := by
      intro x es hx
      have hvanishes : (Coefficient.ofReal places x).vanishes = true := by
        show (x == 0 || _) = true
        rw [hx, Bool.true_or]
      rw [Polynomial.displaySum, if_pos hvanishes]
    show "y=" ++ ({ b := p.b, c := p.c } : Polynomial).display places = _
    unfold Polynomial.display Polynomial.displayChars Polynomial.displayTerms
    rw [hsum p.a _ hlinear, hsum 0 _ rfl]
  · rfl

theorem polynomial_ofPolynomial {category : Category} :
    (Curve.ofPolynomial places category p).polynomial = p := by
  unfold Curve.ofPolynomial
  split <;> rfl

/-! ## small integers -/

variable {l m n : Int}

theorem toReal_int (h : IsSmall n) : (Number.int n).toReal = .ok (integer n) := by
  rw [Number.toReal, Double.ofInt?_eq h, Option.elim_some]

theorem asNumber_int (n : Int) : (Value.int n).asNumber = .ok (.int n) := rfl

theorem readReal_int (h : IsSmall n) : (Value.int n).readReal = .ok (integer n) := by
  simp only [Value.readReal, asNumber_int]
  rw [ok_bind, toReal_int h]

theorem ofValues_int (places : Int) (category : Category) (hl : IsSmall l) (hm : IsSmall m)
    (hn : IsSmall n) : Curve.ofValues places category (.int l) (.int m) (.int n)
      = .ok (.ofPolynomial places category (ofIntegers l m n)) := by
  unfold Curve.ofValues
  rw [readReal_int hl, readReal_int hm, readReal_int hn]
  rfl

theorem isPolynomialChar_of_mem_displayChars (places : Int) (hp : p.isFinite = true) :
    ∀ c ∈ p.displayChars places, isPolynomialChar c = true := by
  obtain ⟨ha, hb, hc⟩ := isFinite_iff.mp hp
  exact Polynomial.mem_displayTerms (Coefficient.numeral_ofReal_written places ha)
    (Coefficient.numeral_ofReal_written places hb) (Coefficient.numeral_ofReal_written places hc)

/-- **The text of a polynomial and its coefficients have the same account**, as an equation and as a
function, and the expression to draw is analyzed as the function again. -/
theorem analyze_printed (places : Int) (hl : IsSmall l) (hm : IsSmall m) (hn : IsSmall n) :
    ∃ (text : String) (equation function : Curve),
      Value.displayPolynomial places (.int l) (.int m) (.int n) = .ok text ∧
      Curve.ofValues places .equation (.int l) (.int m) (.int n) = .ok equation ∧
      Curve.ofValues places .function (.int l) (.int m) (.int n) = .ok function ∧
      analyze places (text ++ "=0").toList = .curve equation ∧
      analyze places ("y=" ++ text).toList = .curve function ∧
      analyze places ("f(x)=" ++ text).toList = .curve function ∧
      analyze places equation.graph.expression.toList = .curve function ∧
      analyze places function.graph.expression.toList = .curve function ∧
      equation.polynomial = ⟨integer l, integer m, integer n⟩ ∧
      function.polynomial = ⟨integer l, integer m, integer n⟩ := by
  have hfinite := isFinite_ofIntegers hl hm hn
  have hchars := isPolynomialChar_of_mem_displayChars places hfinite
  have hextract := extract?_ofIntegers places hl hm hn
  have htext : ((ofIntegers l m n).display places).toList
      = (ofIntegers l m n).displayChars places := String.toList_ofList
  have hequation : ((ofIntegers l m n).display places ++ "=0").toList
      = (ofIntegers l m n).displayChars places ++ ['=', '0'] := by
    rw [String.toList_append, htext]
    rfl
  have hy : ("y=" ++ (ofIntegers l m n).display places).toList
      = 'y' :: '=' :: (ofIntegers l m n).displayChars places := by
    rw [String.toList_append, htext]
    rfl
  have hf : ("f(x)=" ++ (ofIntegers l m n).display places).toList
      = "f(x)=".toList ++ (ofIntegers l m n).displayChars places := by
    rw [String.toList_append, htext]
  have hgraph : ∀ category : Category,
      (Curve.ofPolynomial places category (ofIntegers l m n)).graph.expression
        = "y=" ++ (ofIntegers l m n).display places :=
    fun _ => graph_ofPolynomial
  refine ⟨_, _, _, Value.displayPolynomial_int places hl hm hn, ofValues_int places .equation hl hm hn,
    ofValues_int places .function hl hm hn, ?_, ?_, ?_, ?_, ?_, polynomial_ofPolynomial,
    polynomial_ofPolynomial⟩
  · rw [hequation]
    exact analyze_equation Polynomial.displayTerms_ne_nil hchars hextract hfinite
  · rw [hy]
    exact analyze_y hchars hextract
  · rw [hf]
    exact analyze_f hchars hextract
  · rw [hgraph, hy]
    exact analyze_y hchars hextract
  · rw [hgraph, hy]
    exact analyze_y hchars hextract

theorem analyze_printed_parabola : (IsSmall 1 ∧ IsSmall (-3) ∧ IsSmall 2) ∧
    ∃ (text : String) (equation function : Curve),
      Value.displayPolynomial 4 (.int 1) (.int (-3)) (.int 2) = .ok text ∧
      Curve.ofValues 4 .equation (.int 1) (.int (-3)) (.int 2) = .ok equation ∧
      analyze 4 (text ++ "=0").toList = .curve equation ∧
      analyze 4 ("y=" ++ text).toList = .curve function ∧
      analyze 4 equation.graph.expression.toList = .curve function ∧
      equation.polynomial = ⟨integer 1, integer (-3), integer 2⟩ := by
  have hsmall : IsSmall 1 ∧ IsSmall (-3) ∧ IsSmall 2 := ⟨by decide, by decide, by decide⟩
  obtain ⟨text, equation, function, htext, hequation, _, hanalyze, hy, _, hgraph, _,
    hpolynomial, _⟩ := analyze_printed 4 hsmall.1 hsmall.2.1 hsmall.2.2
  exact ⟨hsmall, text, equation, function, htext, hequation, hanalyze, hy, hgraph, hpolynomial⟩

end

end AlgebraDesk.Analysis

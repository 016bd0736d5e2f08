import AlgebraDesk.Plot.Curve
import AlgebraDesk.Proofs.Analysis.Printed
import AlgebraDesk.Proofs.Double.Rational
import AlgebraDesk.Proofs.Plot.Terms

/-!
# Drawing what is printed

A printed polynomial is read in two ways: term by term when its coefficients are extracted, and as a
formula when it is drawn.  Both give one function: each literal of the formula is a decimal, and the
coefficient that is extracted is the double nearest to it, with its sign.  Small integers are exact
either way, and the term that is drawn from the text is the one that is drawn from the numbers.

* `exactLiteral`, `doubleLiteral`   what a literal counts for;
* `Entry.coefficient_double`, `Entry.nearestTo_coefficient`   a literal and the double it says;
* `ofText_display`      the expression of a printed polynomial;
* `term_integers`       its term, for small integers;
* `plot_printed`        the two readings agree.
-/

namespace AlgebraDesk.Plot

open AlgebraDesk.Polynomial (displaySum extract? isFinite_iff ofIntegers)
open Decimal (Digits)
open Double (integer nearestTo rational signed IsSmall)

/-! ## literals -/

/-- A literal as the decimal that is written. -/
def exactLiteral (d : Digits) : Rat := d.ratio.1 / d.ratio.2

/-- A literal as the double that it is read as. -/
def doubleLiteral (d : Digits) : Rat := rational (d.toFloat false)

theorem exactLiteral_whole (n : Nat) : exactLiteral ⟨n, 0⟩ = n := by
  have hratio : (⟨n, 0⟩ : Digits).ratio = (n * Decimal.tenTo 0, 1) :=
    Decimal.ratio_of_nonneg (Int.le_refl 0)
  unfold exactLiteral
  rw [hratio, Decimal.tenTo_zero, Nat.mul_one, Nat.cast_one, div_one]

theorem doubleLiteral_whole {n : Nat} (h : IsSmall n) : doubleLiteral ⟨n, 0⟩ = n := by
  have hinteger : integer n = Double.nearest false n 1 := by
    unfold integer
    rw [decide_eq_false (Int.not_lt.mpr (Int.natCast_nonneg n)), Int.natAbs_natCast]
  unfold doubleLiteral
  rw [Decimal.toFloat_whole, ← hinteger, Double.rational_integer h, Int.cast_natCast]

/-- What zero and one count for, whose numerals are not always printed. -/
structure IsProper (literal : Digits → Rat) : Prop where
  zero : literal ⟨0, 0⟩ = 0
  one : literal ⟨1, 0⟩ = 1

theorem isProper_exactLiteral : IsProper exactLiteral :=
  ⟨(exactLiteral_whole 0).trans Nat.cast_zero, (exactLiteral_whole 1).trans Nat.cast_one⟩

theorem isProper_doubleLiteral : IsProper doubleLiteral :=
  ⟨(doubleLiteral_whole (show IsSmall (0 : Nat) by decide)).trans Nat.cast_zero,
    (doubleLiteral_whole (show IsSmall (1 : Nat) by decide)).trans Nat.cast_one⟩

section
variable {e : Entry} {x : Float}

/-- The double that a coefficient says is the one of its decimal. -/
theorem Entry.toFloat_eq (hk : e.k.ReadsAs x) (hv : e.k.vanishes = false) :
    e.d.toFloat e.k.negative = x := by
  obtain ⟨d, hd, hvalue⟩ := hk.numeral hv
  rw [e.written.spells.unique hd, hvalue]

/-- **Literals that count for their doubles** give the coefficient that is extracted. -/
theorem Entry.coefficient_double (hk : e.k.ReadsAs x) (hx : x.isFinite = true) :
    e.coefficient doubleLiteral = rational x := by
  unfold Entry.coefficient
  cases hv : e.k.vanishes with
  | true => rw [if_pos rfl, hk.vanishes hv, Double.rational_zero]
  | false =>
    have htext := e.toFloat_eq hk hv
    rw [Decimal.toFloat_eq_nearest] at htext
    rw [← htext] at hx
    rw [if_neg Bool.false_ne_true, ← htext, Double.rational_nearest hx]
    unfold doubleLiteral
    rw [Decimal.toFloat_eq_nearest]

/-- **Literals that count for what is written** are within rounding of it. -/
theorem Entry.nearestTo_coefficient (hk : e.k.ReadsAs x) :
    nearestTo (e.coefficient exactLiteral) = x := by
  unfold Entry.coefficient
  cases hv : e.k.vanishes with
  | true => rw [if_pos rfl, Double.nearestTo_zero, hk.vanishes hv]
  | false =>
    have htext := e.toFloat_eq hk hv
    have hzero : x ≠ -0 := by
      rintro rfl
      have hsum := hk.zero_add
      rw [Double.negativeZero_eq_ofCode, Double.zero_add_ofCode (by decide),
        Double.ofCode_inj (by decide) (by decide)] at hsum
      exact absurd hsum.1 (by decide)
    have hsigned : (if e.k.negative then -exactLiteral e.d else exactLiteral e.d)
        = (signed e.k.negative e.d.ratio.1 : Rat) / e.d.ratio.2 := by
      unfold exactLiteral signed
      split
      · rw [Int.cast_neg, Int.cast_natCast, neg_div]
      · rw [Int.cast_natCast]
    rw [Decimal.toFloat_eq_nearest] at htext
    rw [← htext] at hzero
    rw [if_neg Bool.false_ne_true, hsigned,
      ← Double.nearest_eq_nearestTo (Decimal.ratio_pos _) hzero, htext]

end

/-! ## the entries of a polynomial -/

/-- The entries of what is printed of a polynomial. -/
structure IsPrinted (places : Int) (p : Polynomial) (a b c : Entry) : Prop where
  square : a.k = .ofReal places p.a ∧ a.unknown? = some .squared
  linear : b.k = .ofReal places p.b ∧ b.unknown? = some .plain
  constant : c.k = .ofReal places p.c ∧ c.unknown? = none

section
variable {places : Int} {p : Polynomial} {a b c : Entry}

theorem exists_entry (places : Int) {x : Float} (hx : x.isFinite = true)
    (unknown? : Option Unknown) :
    ∃ e : Entry, e.k = .ofReal places x ∧ e.unknown? = unknown? := by
  obtain ⟨d, spelling, hwritten⟩ := exists_writes (Coefficient.numeral_ofReal_written places hx)
  exact ⟨⟨_, d, spelling, unknown?, hwritten⟩, rfl, rfl⟩

theorem exists_printed (places : Int) (hp : p.isFinite = true) :
    ∃ a b c, IsPrinted places p a b c := by
  obtain ⟨ha, hb, hc⟩ := isFinite_iff.mp hp
  obtain ⟨a, ha⟩ := exists_entry places ha (some .squared)
  obtain ⟨b, hb⟩ := exists_entry places hb (some .plain)
  obtain ⟨c, hc⟩ := exists_entry places hc none
  exact ⟨a, b, c, ha, hb, hc⟩

/-- **A printed polynomial is a graph expression.** -/
theorem ofText_display (h : IsPrinted places p a b c) (hp : p.isFinite = true) :
    Expression.ofText ('y' :: '=' :: p.displayChars places) = .ok (treeOf [a, b, c]) := by
  have hprinted : printed [a, b, c] = [(.ofReal places p.a, ['x', '^', '2']),
      (.ofReal places p.b, ['x']), (.ofReal places p.c, [])] := by
    unfold printed Entry.power
    simp only [List.map_cons, List.map_nil, h.square, h.linear, h.constant]
    rfl
  have hread : Expression.read? (p.displayChars places) = some (treeOf [a, b, c]) := by
    refine read?_printed [a, b, c] ?_
    rw [hprinted]
    rfl
  exact ofText_polynomial Polynomial.displayTerms_ne_nil
    (Analysis.isPolynomialChar_of_mem_displayChars places hp) hread (symbols_treeOf _)

/-- The numeral of a unit, whether it is printed or not. -/
theorem Entry.d_of_isUnit {e : Entry} (hk : e.k.IsShown) (hunit : e.k.isUnit = true) :
    e.d = ⟨1, 0⟩ := by
  have hspells := e.written.spells
  rw [hk.unit hunit] at hspells
  exact hspells.unique Polynomial.Summand.spells_one

/-- **Its value** has the coefficients that its literals say. -/
theorem value?_display {literal : Digits → Rat} (h : IsPrinted places p a b c)
    (hp : p.isFinite = true) (hliteral : IsProper literal) (x : Rat) :
    (treeOf [a, b, c]).value? literal x
      = some (a.coefficient literal * x ^ 2 + b.coefficient literal * x
          + c.coefficient literal) := by
  obtain ⟨ha, hb, hc⟩ := isFinite_iff.mp hp
  have hunit : ∀ e ∈ [a, b, c], e.k.isUnit = true → literal e.d = 1 := by
    have hshown : ∀ e ∈ [a, b, c], e.k.IsShown := by
      rw [List.forall_mem_cons, List.forall_mem_cons, List.forall_mem_singleton, h.square.1,
        h.linear.1, h.constant.1]
      exact ⟨Coefficient.isShown_ofReal places ha, Coefficient.isShown_ofReal places hb,
        Coefficient.isShown_ofReal places hc⟩
    intro e he hunit
    rw [Entry.d_of_isUnit (hshown e he) hunit, hliteral.one]
  have hsum : ([a, b, c].map (Entry.value literal x)).sum
      = a.coefficient literal * x ^ 2 + b.coefficient literal * x + c.coefficient literal := by
    unfold Entry.value
    simp only [List.map_cons, List.map_nil, List.sum_cons, List.sum_nil, h.square.2, h.linear.2,
      h.constant.2]
    show a.coefficient literal * x ^ 2 + (b.coefficient literal * x
      + (c.coefficient literal * 1 + 0)) = _
    rw [add_zero, mul_one, add_assoc]
  rw [value?_treeOf [a, b, c] hliteral.zero hunit, hsum]

end

/-! ## small integers -/

theorem Writes.of_digits {n : Nat} {d : Digits} {spelling : Spelling}
    (h : Writes (Decimal.digits n) d spelling) : d = ⟨n, 0⟩ ∧ spelling = .whole := by
  generalize hcs : Decimal.digits n = cs at h
  cases h with
  | whole k hk =>
    have hvalue := congrArg Decimal.digitsValue hcs
    rw [Decimal.digitsValue_digits, Decimal.digitsValue_digits] at hvalue
    exact ⟨by rw [hvalue], rfl⟩
  | point k hne hf =>
    have hpoint : '.' ∈ Decimal.digits n := by
      rw [hcs]
      exact List.mem_append_right _ List.mem_cons_self
    exact absurd (Decimal.isDigit_of_mem_digits hpoint) (by decide)

/-- An entry of a small integer is whole, and exact. -/
theorem entry_of_integer {places : Int} {n : Int} {e : Entry} (hn : IsSmall n)
    (hk : e.k = .ofReal places (integer n)) :
    e.IsWhole ∧ e.integer = n ∧ e.coefficient exactLiteral = n := by
  have hwritten := e.written
  rw [hk, Coefficient.ofReal_integer places hn] at hwritten
  obtain ⟨hd, hspelling⟩ := hwritten.of_digits
  rw [Coefficient.ofReal_integer places hn] at hk
  have hinteger : e.integer = n := by
    unfold Entry.integer
    rw [hk, hd]
    exact Double.signed_natAbs n
  refine ⟨⟨hspelling, ?_, ?_⟩, hinteger, ?_⟩
  · rw [hk, hd]
    show (n == 0) = true ↔ n.natAbs = 0
    rw [beq_iff_eq, Int.natAbs_eq_zero]
  · rw [hk, hd]
    exact fun hunit => beq_iff_eq.mp hunit
  · have hsigned : (if e.k.negative then -exactLiteral e.d else exactLiteral e.d)
        = (e.integer : Rat) := by
      unfold Entry.integer signed
      rw [hd, exactLiteral_whole]
      split
      · rw [Int.cast_neg, Int.cast_natCast]
      · rw [Int.cast_natCast]
    unfold Entry.coefficient
    rw [hsigned, hinteger]
    split
    · rename_i hv
      rw [hk] at hv
      rw [beq_iff_eq.mp hv, Int.cast_zero]
    · rfl

section
variable {places l m n : Int} {a b c : Entry}

/-- **Text and numbers have one term.** -/
theorem term_integers (h : IsPrinted places (ofIntegers l m n) a b c) (hl : IsSmall l)
    (hm : IsSmall m) (hn : IsSmall n) :
    (treeOf [a, b, c]).term = quadraticTerm (.int l) (.int m) (.int n) := by
  obtain ⟨hwholea, hla, _⟩ := entry_of_integer hl h.square.1
  obtain ⟨hwholeb, hmb, _⟩ := entry_of_integer hm h.linear.1
  obtain ⟨hwholec, hnc, _⟩ := entry_of_integer hn h.constant.1
  have hwhole : ∀ e ∈ [a, b, c], e.IsWhole := by
    rw [List.forall_mem_cons, List.forall_mem_cons, List.forall_mem_singleton]
    exact ⟨hwholea, hwholeb, hwholec⟩
  rw [term_treeOf hwhole, quadraticTerm_int]
  unfold Entry.term
  simp only [List.map_cons, List.map_nil, hla, hmb, hnc, h.square.2, h.linear.2, h.constant.2]

theorem toList_y (text : String) : ("y=" ++ text).toList = 'y' :: '=' :: text.toList := by
  rw [String.toList_append]
  rfl

theorem labelOf_y {text : String} (h : Category.IsPlain text.toList) :
    labelOf ("y=" ++ text) = "y=" ++ text := by
  have hdrop : (Text.dropExactly? ['y'] ('y' :: '=' :: text.toList)).isSome = true := rfl
  unfold labelOf
  rw [toList_y, (Category.isPlain_y h).trim]
  simp only [hdrop, Bool.true_or, if_pos]

end

/-! ## both readings -/

section
variable {places : Int} {text : String}

/-- **The expression and the coefficients of one text.**  The function that the expression denotes
has the coefficients that are extracted, where a literal counts for its double; where it counts for
what is written, they are the doubles nearest to those of the function. -/
theorem value_printed (places : Int) {p : Polynomial} (hp : p.isFinite = true) :
    ∃ e q, Expression.ofText ('y' :: '=' :: p.displayChars places) = .ok e ∧
      extract? (p.displayChars places) = some q ∧
      (∀ x, e.value? doubleLiteral x
        = some (rational q.a * x ^ 2 + rational q.b * x + rational q.c)) ∧
      ∃ A B C : Rat, q = ⟨nearestTo A, nearestTo B, nearestTo C⟩ ∧
        ∀ x, e.value? exactLiteral x = some (A * x ^ 2 + B * x + C) := by
  obtain ⟨a, b, c, h⟩ := exists_printed places hp
  obtain ⟨hfina, hfinb, hfinc⟩ := isFinite_iff.mp hp
  obtain ⟨qa, _, hqa, hsaysa, _⟩ := Coefficient.exists_shown places hfina
  obtain ⟨qb, _, hqb, hsaysb, _⟩ := Coefficient.exists_shown places hfinb
  obtain ⟨qc, _, hqc, hsaysc, _⟩ := Coefficient.exists_shown places hfinc
  have hq : (⟨qa, qb, qc⟩ : Polynomial).isFinite = true := isFinite_iff.mpr ⟨hqa, hqb, hqc⟩
  have hextract := Polynomial.extract?_displayTerms hsaysa hsaysb hsaysc hq
  rw [← h.square.1] at hsaysa
  rw [← h.linear.1] at hsaysb
  rw [← h.constant.1] at hsaysc
  refine ⟨_, ⟨qa, qb, qc⟩, ofText_display h hp, hextract, fun x => ?_, _, _, _, ?_, fun x =>
    value?_display h hp isProper_exactLiteral x⟩
  · rw [value?_display h hp isProper_doubleLiteral x,
      Entry.coefficient_double hsaysa hqa, Entry.coefficient_double hsaysb hqb,
      Entry.coefficient_double hsaysc hqc]
  · rw [Entry.nearestTo_coefficient hsaysa, Entry.nearestTo_coefficient hsaysb,
      Entry.nearestTo_coefficient hsaysc]

variable {l m n : Int}

theorem plotExpression_of_ok {e : Expression} (h : Expression.ofText text.toList = .ok e)
    (marks : List Value) (r : Range) (style : Style) :
    plotExpression text marks r style = plotTerm e.term (labelOf text) marks r style := by
  unfold plotExpression
  rw [h]

theorem plotQuadratic_int
    (h : Value.displayPolynomial places (.int l) (.int m) (.int n) = .ok text) (r : Range)
    (style : Style) : plotQuadratic places (.int l) (.int m) (.int n) r style
      = plotTerm (quadraticTerm (.int l) (.int m) (.int n)) ("y=" ++ text) [] r style := by
  unfold plotQuadratic
  rw [h]
  rfl

/-- **Small integers are exact**, and drawn alike from the text and from the numbers. -/
theorem plot_integers (places : Int) (hl : IsSmall l) (hm : IsSmall m) (hn : IsSmall n) :
    ∃ text e, Value.displayPolynomial places (.int l) (.int m) (.int n) = .ok text ∧
      Expression.ofText ("y=" ++ text).toList = .ok e ∧
      extract? text.toList = some ⟨integer l, integer m, integer n⟩ ∧
      (∀ x, e.value? exactLiteral x = some (l * x ^ 2 + m * x + n)) ∧
      e.term = quadraticTerm (.int l) (.int m) (.int n) ∧
      ∀ r style, plotQuadratic places (.int l) (.int m) (.int n) r style
        = plotExpression ("y=" ++ text) [] r style := by
  have hp := Polynomial.isFinite_ofIntegers hl hm hn
  obtain ⟨a, b, c, h⟩ := exists_printed places hp
  have htext := Polynomial.toList_display places (ofIntegers l m n)
  have hdisplay := Value.displayPolynomial_int places hl hm hn
  have hread : Expression.ofText ("y=" ++ (ofIntegers l m n).display places).toList
      = .ok (treeOf [a, b, c]) := by
    rw [toList_y, htext]
    exact ofText_display h hp
  have hterm := term_integers h hl hm hn
  refine ⟨_, _, hdisplay, hread, ?_, fun x => ?_, hterm, fun r style => ?_⟩
  · rw [htext]
    exact Polynomial.extract?_ofIntegers places hl hm hn
  · obtain ⟨_, _, ha⟩ := entry_of_integer hl h.square.1
    obtain ⟨_, _, hb⟩ := entry_of_integer hm h.linear.1
    obtain ⟨_, _, hc⟩ := entry_of_integer hn h.constant.1
    rw [value?_display h hp isProper_exactLiteral x, ha, hb, hc]
  · have hplain : Category.IsPlain ((ofIntegers l m n).display places).toList := by
      rw [htext]
      exact Category.isPlain_of_polynomial (Analysis.isPolynomialChar_of_mem_displayChars places hp)
    rw [plotExpression_of_ok hread, hterm, labelOf_y hplain, plotQuadratic_int hdisplay]

/-- **Drawing and extracting agree on everything that is printed.**  The text of finite coefficients,
where they have one, is a graph expression.  What it denotes has the coefficients that are extracted from the same text,
literals counting for the doubles they are read as; with literals that count for the decimals that
are written, the coefficients that are extracted are the nearest doubles.  The text of small
integers denotes their polynomial, and it has the same term and the same plot as they have. -/
theorem plot_printed (places : Int) (p : Polynomial) (hp : p.isFinite = true)
    (hplaces : places ≤ Value.placesLimit ∨ p.IsWhole) :
    (∃ text e q,
      Value.displayPolynomial places (.real p.a) (.real p.b) (.real p.c) = .ok text ∧
      Expression.ofText ("y=" ++ text).toList = .ok e ∧ extract? text.toList = some q ∧
      (∀ x, e.value? doubleLiteral x
        = some (rational q.a * x ^ 2 + rational q.b * x + rational q.c)) ∧
      ∃ A B C : Rat, q = ⟨nearestTo A, nearestTo B, nearestTo C⟩ ∧
        ∀ x, e.value? exactLiteral x = some (A * x ^ 2 + B * x + C)) ∧
    ∀ l m n : Int, IsSmall l → IsSmall m → IsSmall n → ∃ text e,
      Value.displayPolynomial places (.int l) (.int m) (.int n) = .ok text ∧
      Expression.ofText ("y=" ++ text).toList = .ok e ∧
      extract? text.toList = some ⟨integer l, integer m, integer n⟩ ∧
      (∀ x, e.value? exactLiteral x = some (l * x ^ 2 + m * x + n)) ∧
      e.term = quadraticTerm (.int l) (.int m) (.int n) ∧
      ∀ r style, plotQuadratic places (.int l) (.int m) (.int n) r style
        = plotExpression ("y=" ++ text) [] r style := by
  obtain ⟨e, q, hread, hextract, hvalue⟩ := value_printed places hp
  have htext := Polynomial.toList_display places p
  refine ⟨⟨p.display places, e, q, Value.displayPolynomial_real hp hplaces, ?_, ?_, hvalue⟩,
    fun l m n hl hm hn => plot_integers places hl hm hn⟩
  · rw [toList_y, htext]
    exact hread
  · rw [htext]
    exact hextract

theorem plot_printed_parabola : (⟨2, -0.5, 7⟩ : Polynomial).isFinite = true ∧
    (4 : Int) ≤ Value.placesLimit ∧
    (∃ text e q, Value.displayPolynomial 4 (.real 2) (.real (-0.5)) (.real 7) = .ok text ∧
      Expression.ofText ("y=" ++ text).toList = .ok e ∧ extract? text.toList = some q ∧
      ∀ x, e.value? doubleLiteral x
        = some (rational q.a * x ^ 2 + rational q.b * x + rational q.c)) ∧
    (IsSmall 1 ∧ IsSmall (-3) ∧ IsSmall 0) ∧
    ∃ text e, Value.displayPolynomial 4 (.int 1) (.int (-3)) (.int 0) = .ok text ∧
      Expression.ofText ("y=" ++ text).toList = .ok e ∧
      e.term = quadraticTerm (.int 1) (.int (-3)) (.int 0) := by
  have hp : (⟨2, -0.5, 7⟩ : Polynomial).isFinite = true := by decide +kernel
  have hplaces : (4 : Int) ≤ Value.placesLimit := by decide
  have hsmall : IsSmall 1 ∧ IsSmall (-3) ∧ IsSmall 0 := ⟨by decide, by decide, by decide⟩
  obtain ⟨⟨text, e, q, htext, hread, hextract, hvalue, _⟩, hintegers⟩ :=
    plot_printed 4 ⟨2, -0.5, 7⟩ hp (.inl hplaces)
  obtain ⟨text', e', htext', hread', _, _, hterm, _⟩ :=
    hintegers 1 (-3) 0 hsmall.1 hsmall.2.1 hsmall.2.2
  exact ⟨hp, hplaces, ⟨text, e, q, htext, hread, hextract, hvalue⟩, hsmall, text', e', htext',
    hread', hterm⟩

/-- Beyond the limit a half has no text to be drawn. -/
theorem plot_printed_not_always :
    Value.displayPolynomial 2147483648 (.real 0.5) (.real 0) (.real 0) = .error .badValue ∧
    ¬ ∀ (places : Int) (p : Polynomial), p.isFinite = true → ∃ text e,
      Value.displayPolynomial places (.real p.a) (.real p.b) (.real p.c) = .ok text ∧
      Expression.ofText ("y=" ++ text).toList = .ok e := by
  have hp : (⟨0.5, 0, 0⟩ : Polynomial).isFinite = true := by decide +kernel
  have hlimit : Value.placesLimit < 2147483648 := by decide
  have hfrac : ¬ (⟨0.5, 0, 0⟩ : Polynomial).IsWhole := fun hwhole =>
    absurd (hwhole 0.5 List.mem_cons_self) (by decide +kernel)
  have hrefused := Value.displayPolynomial_refused hp hlimit hfrac
  refine ⟨hrefused, fun hall => ?_⟩
  obtain ⟨text, _, htext, _⟩ := hall 2147483648 ⟨0.5, 0, 0⟩ hp
  rw [hrefused] at htext
  cases htext

end

end AlgebraDesk.Plot

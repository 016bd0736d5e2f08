import AlgebraDesk.Proofs.Polynomial.Printing

/-!
# What a coefficient says

The text of a coefficient is read as the double nearest to the decimal that is shown.  Printed
again, this double has the same numeral, and it is left out where it was left out before; only the
test for a unit can come out differently, as it looks at the exact double, not at the numeral.

* `readsAs_ofReal`  the double that a coefficient says;
* `ofNumber_int`, `ofReal_integer`   a small integer is printed as its double, and what is printed;
* `judged`          the coefficient as its text alone shows it;
* `ofReal_shown`    how the double that was read is printed.
-/

namespace AlgebraDesk

open Decimal (real? shownCode trimmedChars fixedUnits maxPlaces)
open Double (Magnitude ofCode infinityCode oneCode)

/-! ## coefficients that are doubles -/

namespace Coefficient

section
variable {negative : Bool} {code : Nat}

theorem numeral_ofReal (places : Int) (h : code < infinityCode) :
    (Decimal.display places (ofCode negative code).abs).toList
      = trimmedChars (min places.toNat maxPlaces)
          (fixedUnits (min places.toNat maxPlaces) (.ofCode code)) := by
  rw [Double.abs_ofCode h, Decimal.display_ofCode places h, Decimal.displayMagnitude_eq]
  rfl

/-- The numeral of zero stands for what is read as zero. -/
theorem trimmedChars_eq_zero {places : Nat} :
    trimmedChars places (fixedUnits places (.ofCode code)) = ['0'] ↔ shownCode places code = 0 := by
  rw [← Decimal.digits_zero, Decimal.trimmedChars_eq_digits, Decimal.shownCode_eq_zero,
    Nat.zero_mul]

theorem trimmedChars_eq_one {places : Nat} :
    trimmedChars places (fixedUnits places (.ofCode code)) = ['1']
      ↔ shownCode places code = oneCode := by
  have hone : Decimal.digits 1 = ['1'] := by decide
  rw [← hone, Decimal.trimmedChars_eq_digits, Decimal.shownCode_eq Double.units_oneCode]

theorem shownCode_zero (places : Nat) : shownCode places 0 = 0 :=
  Decimal.shownCode_of_units places Double.units_zeroCode

theorem shownCode_one (places : Nat) : shownCode places oneCode = oneCode :=
  Decimal.shownCode_of_units places Double.units_oneCode

theorem ofReal_ofCode (places : Int) (h : code < infinityCode) :
    ofReal places (ofCode negative code)
      = { negative := negative && code != 0
          vanishes := shownCode (min places.toNat maxPlaces) code == 0
          isUnit := code == oneCode
          numeral := trimmedChars (min places.toNat maxPlaces)
            (fixedUnits (min places.toNat maxPlaces) (.ofCode code)) } := by
  unfold ofReal
  rw [numeral_ofReal places h]
  generalize min places.toNat maxPlaces = p
  have hnegative : decide (ofCode negative code < 0) = (negative && code != 0) := by
    rw [Bool.eq_iff_iff, decide_eq_true_iff, Double.lt_zero_ofCode h, Bool.and_eq_true, bne_iff_ne]
  have hvanishes : (ofCode negative code == 0
      || trimmedChars p (fixedUnits p (.ofCode code)) == ['0']) = (shownCode p code == 0) := by
    rw [Double.beq_zero_ofCode h, Bool.eq_iff_iff, Bool.or_eq_true, beq_iff_eq, beq_iff_eq,
      beq_iff_eq, trimmedChars_eq_zero]
    constructor
    · rintro (rfl | h)
      · exact shownCode_zero p
      · exact h
    · exact .inr
  have hunit : ((ofCode negative code).abs == 1) = (code == oneCode) := by
    rw [Double.abs_ofCode h, Double.beq_one_ofCode h]
  simp only [hnegative, hvanishes, hunit]

/-- **A coefficient says the double that its text is read as.** -/
theorem readsAs_ofReal (places : Int) (h : code < infinityCode) :
    (ofReal places (ofCode negative code)).ReadsAs
      (ofCode (negative && shownCode (min places.toNat maxPlaces) code != 0)
        (shownCode (min places.toNat maxPlaces) code)) := by
  rw [ofReal_ofCode places h]
  generalize min places.toNat maxPlaces = p
  have hlt := Decimal.shownCode_lt p h
  have hsign : shownCode p code ≠ 0 →
      (negative && code != 0) = (negative && shownCode p code != 0) := by
    intro hne
    have hcode : code ≠ 0 := by
      rintro rfl
      exact hne (shownCode_zero p)
    rw [bne_iff_ne.mpr hne, bne_iff_ne.mpr hcode]
  constructor
  · intro hv
    rw [beq_iff_eq.mp hv, Double.zero_eq_ofCode, bne_self_eq_false, Bool.and_false]
  · intro hv
    obtain ⟨d, hd, hratio⟩ := Decimal.trimmedChars_spells p (fixedUnits p (.ofCode code))
    refine ⟨d, hd, ?_⟩
    have hmin : min (Double.nearestCode (fixedUnits p (.ofCode code)) (Decimal.tenTo p))
        infinityCode = shownCode p code := Nat.min_eq_left (Nat.le_of_lt hlt)
    rw [Decimal.toFloat_of_ratio _ hratio, hmin, hsign (beq_eq_false_iff_ne.mp hv)]
  · intro hv hunit
    have hcode : code = oneCode := beq_iff_eq.mp hunit
    rw [hsign (beq_eq_false_iff_ne.mp hv), hcode, shownCode_one]
    cases negative
    · exact Double.one_eq_ofCode.symm
    · exact Double.negativeOne_eq_ofCode.symm
  · rw [Double.zero_add_ofCode hlt, Bool.and_assoc, Bool.and_self]

/-- A whole number is said exactly, zero without its sign. -/
theorem shown_of_isWhole (places : Int) (h : code < infinityCode)
    (hwhole : Double.isWhole (ofCode negative code) = true) :
    ofCode (negative && shownCode (min places.toNat maxPlaces) code != 0)
        (shownCode (min places.toNat maxPlaces) code)
      = if ofCode negative code == 0 then 0 else ofCode negative code := by
  unfold Double.isWhole at hwhole
  rw [Double.form_ofCode h] at hwhole
  rw [Decimal.shownCode_of_units _ (Decimal.units_of_isWhole hwhole), Double.beq_zero_ofCode h]
  split
  · rename_i hzero
    rw [beq_iff_eq.mp hzero, Double.zero_eq_ofCode, bne_self_eq_false, Bool.and_false]
  · rename_i hne
    rw [bne_iff_ne.mpr fun e => hne (beq_iff_eq.mpr e), Bool.and_true]

/-! ## coefficients that are integers -/

/-- **A small integer is printed as its double.** -/
theorem ofNumber_int (places : Int) {n : Int} (h : Double.IsSmall n) :
    ofNumber places (.int n) = ofReal places (Double.integer n) := by
  have habs : Double.IsSmall n.natAbs := h
  obtain ⟨c, hc, he, hu⟩ := Double.integer_eq h
  obtain ⟨c', hc', he', hu'⟩ := Double.integer_eq habs
  have hcode : c' = c := by
    rw [← Magnitude.units_inj, hu, hu']
    rfl
  have hinteger : Double.integer n.natAbs = (Double.integer n).abs := by
    have hsign : decide ((n.natAbs : Int) < 0) = false :=
      decide_eq_false (Int.not_lt.mpr (Int.natCast_nonneg _))
    rw [he, he', hcode, Double.abs_ofCode hc, hsign]
  have hzero : (n == 0) = (Double.integer n == 0) := by
    rw [he, Double.beq_zero_ofCode hc, Double.beq_code_zero hu]
  have hone : (n.natAbs == 1) = ((Double.integer n).abs == 1) := by
    rw [he, Double.abs_ofCode hc, Double.beq_one_ofCode hc, Double.beq_code_one hu]
  have hnegative : decide (n < 0) = decide (Double.integer n < 0) := by
    rw [he, decide_eq_decide, Double.lt_zero_ofCode hc, decide_eq_true_iff]
    exact ⟨fun hn => ⟨hn, Double.code_ne_zero_of_neg hu hn⟩, And.left⟩
  unfold ofNumber ofReal
  simp only [Double.ofInt?_eq habs, hinteger, hzero, hone, hnegative]

theorem ofReal_integer (places : Int) {n : Int} (h : Double.IsSmall n) :
    ofReal places (Double.integer n)
      = ⟨n < 0, n == 0, n.natAbs == 1, Decimal.digits n.natAbs⟩ := by
  obtain ⟨c, hc, he, hu⟩ := Double.integer_eq h
  have hshown := Decimal.shownCode_of_units (min places.toNat maxPlaces) hu
  have hnumeral := Decimal.trimmedChars_eq_digits.mpr ((Decimal.shownCode_eq hu).mp hshown)
  rw [he, ofReal_ofCode places hc, hshown, Double.negative_code hu, Double.beq_code_zero hu,
    Double.beq_code_one hu, hnumeral]

/-- **A small integer is said exactly.** -/
theorem readsAs_integer (places : Int) {n : Int} (h : Double.IsSmall n) :
    (ofReal places (Double.integer n)).ReadsAs (Double.integer n) := by
  obtain ⟨c, hc, he, hu⟩ := Double.integer_eq h
  have hreads := @readsAs_ofReal (n < 0) c places hc
  rw [Decimal.shownCode_of_units _ hu, Double.negative_code hu, ← he] at hreads
  exact hreads

/-! ## coefficients that are printed again -/

/-- The coefficient as its text alone shows it. -/
def judged (k : Coefficient) : Coefficient :=
  { k with negative := k.negative && !k.vanishes, isUnit := k.numeral == ['1'] }

theorem judged_judged (k : Coefficient) : k.judged.judged = k.judged := by
  unfold judged
  rw [Bool.and_assoc, Bool.and_self]

theorem shownCode_shownCode (places code : Nat) :
    shownCode places (shownCode places code) = shownCode places code := by
  show Double.nearestCode (fixedUnits places (.ofCode (shownCode places code))) _ = _
  rw [Decimal.fixedUnits_shownCode]
  rfl

/-- **What was read is printed as its text alone shows it.** -/
theorem ofReal_shown (places : Int) (h : code < infinityCode) :
    ofReal places (ofCode (negative && shownCode (min places.toNat maxPlaces) code != 0)
        (shownCode (min places.toNat maxPlaces) code))
      = (ofReal places (ofCode negative code)).judged := by
  have hlt := Decimal.shownCode_lt (min places.toNat maxPlaces) h
  rw [ofReal_ofCode places hlt, ofReal_ofCode places h]
  generalize min places.toNat maxPlaces = p
  have hunit : (trimmedChars p (fixedUnits p (.ofCode code)) == ['1'])
      = (shownCode p code == oneCode) := by
    rw [Bool.eq_iff_iff, beq_iff_eq, beq_iff_eq, trimmedChars_eq_one]
  have hnegative : (negative && shownCode p code != 0 && shownCode p code != 0)
      = (negative && code != 0 && !(shownCode p code == 0)) := by
    by_cases hcode : code = 0
    · rw [hcode, shownCode_zero]
      simp
    · rw [bne_iff_ne.mpr hcode]
      simp [bne]
  unfold judged
  simp only [hunit, hnegative, shownCode_shownCode, Decimal.fixedUnits_shownCode]

/-- What holds of a numeral that is shown: it is not empty, a unit shows as `1`, and what is left
out does not. -/
structure IsShown (k : Coefficient) : Prop where
  numeral_ne_nil : k.numeral ≠ []
  unit : k.isUnit = true → k.numeral = ['1']
  vanishes : k.vanishes = true → k.numeral ≠ ['1']

theorem isShown_ofReal (places : Int) {x : Float} (hx : x.isFinite = true) :
    (ofReal places x).IsShown := by
  obtain ⟨negative, code, hcode, rfl⟩ := Double.eq_ofCode_of_isFinite hx
  rw [ofReal_ofCode places hcode]
  generalize min places.toNat maxPlaces = p
  refine ⟨?_, ?_, ?_⟩
  · obtain ⟨d, hd, _⟩ := Decimal.trimmedChars_spells p (fixedUnits p (.ofCode code))
    exact hd.ne_nil
  · intro hunit
    rw [trimmedChars_eq_one, beq_iff_eq.mp hunit, shownCode_one]
  · intro hv
    have hzero : shownCode p code = 0 := beq_iff_eq.mp hv
    have hne : (0 : Nat) ≠ oneCode := by decide
    rwa [ne_eq, trimmedChars_eq_one, hzero]

theorem IsShown.judged {k : Coefficient} (h : k.IsShown) : k.judged.IsShown :=
  ⟨h.numeral_ne_nil, fun hunit => beq_iff_eq.mp hunit, h.vanishes⟩

/-- What the text of a finite double is read as. -/
theorem exists_shown (places : Int) {x : Float} (hx : x.isFinite = true) :
    ∃ q, real? (Decimal.display places x).toList = some q ∧ q.isFinite = true ∧
      (ofReal places x).ReadsAs q ∧ ofReal places q = (ofReal places x).judged ∧
      (Double.isWhole x = true → q = if x == 0 then 0 else x) := by
  obtain ⟨negative, code, hcode, rfl⟩ := Double.eq_ofCode_of_isFinite hx
  have hlt := Decimal.shownCode_lt (min places.toNat maxPlaces) hcode
  exact ⟨_, Decimal.real_display places hcode, Double.isFinite_ofCode hlt,
    readsAs_ofReal places hcode, ofReal_shown places hcode, shown_of_isWhole places hcode⟩

end

end Coefficient

end AlgebraDesk

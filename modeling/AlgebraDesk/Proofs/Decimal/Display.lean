import AlgebraDesk.Decimal.Display
import AlgebraDesk.Proofs.Decimal.Conversion

/-!
# Reading what is shown

The text of a double is a numeral with a sign or none, so it can be read again.  What is read is the
double nearest to the decimal that is shown; a whole number is read exactly.  Showing what was read
gives the same text: the double that is read is no farther from the decimal than the one that was
shown, so it is rounded to the same decimal.

* `trimmedChars_spells`   the decimal that the text of a rounded magnitude spells;
* `shownCode`             the code of the double that is read;
* `real_display`          what the text of a double is read as;
* `fixedUnits_shownCode`  showing it again.
-/

namespace AlgebraDesk.Decimal

open Double (Magnitude nearest nearestCode unitsPerOne unitsPerOne_pos infinityCode)

/-! ## the text of a rounded magnitude -/

section
variable {places units : Nat}

theorem dropTrailingZeros_append (cs : List Char) :
    ∃ k, dropTrailingZeros cs ++ List.replicate k '0' = cs := by
  have hzeros : cs.reverse.takeWhile (· == '0')
      = List.replicate (cs.reverse.takeWhile (· == '0')).length '0' :=
    List.eq_replicate_of_mem fun c hc => by simpa using List.mem_takeWhile_imp hc
  refine ⟨(cs.reverse.takeWhile (· == '0')).length, ?_⟩
  unfold dropTrailingZeros
  rw [← List.reverse_replicate, ← hzeros, ← List.reverse_append,
    List.takeWhile_append_dropWhile, List.reverse_reverse]

theorem isDigit_of_mem_placesPart {c : Char} (h : c ∈ placesPart places units) :
    c.isDigit = true := by
  unfold placesPart padZeros at h
  split at h
  · exact absurd h List.not_mem_nil
  · rcases List.mem_append.mp h with hc | hc
    · rw [List.eq_of_mem_replicate hc]
      decide
    · exact isDigit_of_mem_digits hc

theorem length_placesPart (places units : Nat) : (placesPart places units).length = places := by
  unfold placesPart padZeros
  split
  · rename_i hp
    exact hp.symm
  · rename_i hp
    have hlength := length_digits_le (Nat.mod_lt units (tenTo_pos places)) (Nat.pos_of_ne_zero hp)
    rw [List.length_append, List.length_replicate, Nat.sub_add_cancel hlength]

theorem digitsValue_placesPart (places units : Nat) :
    digitsValue (placesPart places units) = units % tenTo places := by
  unfold placesPart padZeros
  split
  · rename_i hp
    rw [hp, tenTo_zero, Nat.mod_one]
    rfl
  · rw [digitsValue_append, digitsValue_replicate_zero, digitsValue_digits, Nat.zero_mul,
      Nat.zero_add]

/-- All the digits together are the rounded magnitude. -/
theorem digitsValue_parts (places units : Nat) :
    digitsValue (wholePart places units ++ placesPart places units) = units := by
  unfold wholePart
  rw [digitsValue_append, length_placesPart, digitsValue_placesPart, digitsValue_digits]
  exact Nat.div_add_mod' units (tenTo places)

/-- Without the zeros at the end there are fewer places, and the digits are worth as much more. -/
theorem exists_dropped (places units : Nat) :
    ∃ k, (dropTrailingZeros (placesPart places units)).length + k = places ∧
      digitsValue (wholePart places units ++ dropTrailingZeros (placesPart places units)) * tenTo k
        = units := by
  obtain ⟨k, hk⟩ := dropTrailingZeros_append (placesPart places units)
  have hvalue := digitsValue_parts places units
  have hlength := congrArg List.length hk
  rw [List.length_append, List.length_replicate, length_placesPart] at hlength
  rw [← hk, ← List.append_assoc, digitsValue_append, digitsValue_replicate_zero,
    List.length_replicate, Nat.add_zero] at hvalue
  exact ⟨k, hlength, hvalue⟩

theorem isDigit_of_mem_dropped {c : Char}
    (h : c ∈ dropTrailingZeros (placesPart places units)) : c.isDigit = true := by
  obtain ⟨k, hk⟩ := dropTrailingZeros_append (placesPart places units)
  have hmem : c ∈ placesPart places units := by
    rw [← hk]
    exact List.mem_append_left _ h
  exact isDigit_of_mem_placesPart hmem

theorem ratio_point (significand places : Nat) :
    (⟨significand, -places⟩ : Digits).ratio = (significand, tenTo places) := by
  cases places with
  | zero =>
    show (significand * tenTo 0, 1) = _
    rw [tenTo_zero, Nat.mul_one]
  | succ n =>
    rw [ratio_of_neg (by simp only; omega)]
    congr 2

/-- **Without the zeros at its end a decimal keeps its value.** -/
theorem trimmedChars_spells (places units : Nat) :
    ∃ d, Spells (trimmedChars places units) d ∧ d.ratio.1 * tenTo places = units * d.ratio.2 := by
  obtain ⟨k, hlength, hvalue⟩ := exists_dropped places units
  have hfrac : ∀ c ∈ dropTrailingZeros (placesPart places units), Text.isDigit c = true :=
    fun c hc => isDigit_of_ascii (isDigit_of_mem_dropped hc)
  have hwhole : ∀ c ∈ wholePart places units, Text.isDigit c = true := isDigit_digits _
  have hscale := tenTo_add (dropTrailingZeros (placesPart places units)).length k
  rw [hlength] at hscale
  unfold trimmedChars
  split
  · rename_i hnil
    rw [hnil, List.append_nil] at hvalue
    rw [hnil, List.length_nil, tenTo_zero, Nat.one_mul] at hscale
    refine ⟨_, .whole (digits_ne_nil _) hwhole, ?_⟩
    rw [ratio_of_nonneg (Int.le_refl 0), Int.toNat_zero, tenTo_zero, Nat.mul_one, Nat.mul_one,
      hscale]
    exact hvalue
  · refine ⟨_, .point (.inl (digits_ne_nil _)) hwhole hfrac, ?_⟩
    rw [ratio_point]
    show digitsValue _ * tenTo places = units * tenTo _
    rw [hscale, Nat.mul_comm (tenTo _) (tenTo k), ← Nat.mul_assoc, hvalue]

theorem trimmedChars_mul (places k : Nat) : trimmedChars places (k * tenTo places) = digits k := by
  have hplaces : dropTrailingZeros (placesPart places (k * tenTo places)) = [] := by
    unfold placesPart padZeros
    split
    · rfl
    · rw [Nat.mul_mod_left, digits_zero, ← List.replicate_succ']
      simp [dropTrailingZeros]
  unfold trimmedChars wholePart
  rw [hplaces, Nat.mul_div_cancel _ (tenTo_pos places)]

/-- The text of a natural number is shown for its multiple only. -/
theorem trimmedChars_eq_digits {k : Nat} :
    trimmedChars places units = digits k ↔ units = k * tenTo places := by
  constructor
  · intro h
    obtain ⟨d, hspells, hratio⟩ := trimmedChars_spells places units
    have hdigits : Spells (digits k) ⟨digitsValue (digits k), 0⟩ :=
      .whole (digits_ne_nil k) (isDigit_digits k)
    rw [h] at hspells
    rw [hspells.unique hdigits, digitsValue_digits, ratio_of_nonneg (Int.le_refl 0),
      Int.toNat_zero, tenTo_zero, Nat.mul_one, Nat.mul_one] at hratio
    exact hratio.symm
  · rintro rfl
    exact trimmedChars_mul places k

end

/-! ## magnitudes -/

section
variable {places : Nat} {m : Magnitude}

theorem units_of_isWhole (h : m.isWhole = true) : m.units = m.whole * unitsPerOne := by
  have hmod : m.units % unitsPerOne = 0 := beq_iff_eq.mp h
  have e := Nat.div_add_mod' m.units unitsPerOne
  rw [hmod, Nat.add_zero] at e
  exact e.symm

theorem fixedUnits_of_units {k : Nat} (places : Nat) (h : m.units = k * unitsPerOne) :
    fixedUnits places m = k * tenTo places := by
  unfold fixedUnits
  rw [h, Nat.mul_right_comm]
  exact roundHalfEven_mul _ unitsPerOne_pos

/-- A whole number needs no case of its own. -/
theorem displayMagnitude_eq (places : Nat) (negative : Bool) (m : Magnitude) :
    displayMagnitude places negative m
      = signChars negative (fixedUnits places m) ++ trimmedChars places (fixedUnits places m) := by
  unfold displayMagnitude
  split
  · rename_i hwhole
    have hzero : m.whole * tenTo places = 0 ↔ m.whole = 0 := by
      rw [Nat.mul_eq_zero]
      exact or_iff_left (Nat.ne_of_gt (tenTo_pos places))
    have hne : (m.whole * tenTo places != 0) = (m.whole != 0) := by
      rw [Bool.eq_iff_iff, bne_iff_ne, bne_iff_ne, ne_eq, hzero]
    rw [fixedUnits_of_units places (units_of_isWhole hwhole), trimmedChars_mul]
    unfold signChars
    rw [hne]
  · rfl

end

/-! ## what is read again -/

/-- The code of the double nearest to what is shown of a code. -/
def shownCode (places code : Nat) : Nat :=
  nearestCode (fixedUnits places (.ofCode code)) (tenTo places)

section
variable {places code : Nat}

theorem shownCode_of_units {k : Nat} (places : Nat)
    (h : (Magnitude.ofCode code).units = k * unitsPerOne) : shownCode places code = code := by
  unfold shownCode
  refine Double.nearestCode_of_units (tenTo_pos places) ?_
  rw [fixedUnits_of_units places h, h, Nat.mul_right_comm]

/-- Above 2 ^ 53 there are whole numbers only. -/
theorem units_lt_of_not_isWhole (h : (Magnitude.ofCode code).isWhole = false) :
    (Magnitude.ofCode code).units < twoTo 53 * unitsPerOne := by
  have hscale : (Magnitude.ofCode code).scale < Double.unitExponent := by
    by_contra hlarge
    have hunits : (Magnitude.ofCode code).units = (Magnitude.ofCode code).mantissa
        * twoTo ((Magnitude.ofCode code).scale - Double.unitExponent) * unitsPerOne := by
      rw [Double.unitsPerOne_eq, Nat.mul_assoc, ← Double.twoTo_add,
        Nat.sub_add_cancel (Nat.not_lt.mp hlarge)]
      rfl
    unfold Magnitude.isWhole at h
    rw [hunits, Nat.mul_mod_left] at h
    exact absurd h (by decide)
  calc (Magnitude.ofCode code).units
      ≤ twoTo 53 * twoTo (Magnitude.ofCode code).scale :=
        Nat.mul_le_mul_right _ (Nat.le_of_lt (Magnitude.mantissa_lt code))
    _ < twoTo 53 * unitsPerOne :=
        Nat.mul_lt_mul_of_pos_left (Double.twoTo_lt_twoTo hscale) (twoTo_pos 53)

theorem shownCode_lt (places : Nat) (h : code < infinityCode) :
    shownCode places code < infinityCode := by
  cases hwhole : (Magnitude.ofCode code).isWhole with
  | true => rwa [shownCode_of_units places (units_of_isWhole hwhole)]
  | false =>
    obtain ⟨limit, hlimit⟩ := Double.exists_code (Nat.le_refl (twoTo 53)) Double.unitExponent
    rw [← Double.unitsPerOne_eq] at hlimit
    have hrange : limit < infinityCode := by
      rw [← Magnitude.units_lt_units, hlimit, Double.units_infinityCode]
      exact Nat.mul_lt_mul_of_pos_right (Double.twoTo_lt_twoTo (by decide)) unitsPerOne_pos
    have hshown : fixedUnits places (.ofCode code) ≤ twoTo 53 * tenTo places := by
      refine roundHalfEven_le_of_lt unitsPerOne_pos ?_
      rw [Nat.mul_right_comm]
      exact Nat.mul_lt_mul_of_pos_right (units_lt_of_not_isWhole hwhole) (tenTo_pos places)
    refine Nat.lt_of_le_of_lt (Double.nearestCode_le (tenTo_pos places) ?_) hrange
    rw [hlimit, Nat.mul_right_comm]
    exact Nat.mul_le_mul_right _ hshown

/-- **What was read is shown as before.** -/
theorem fixedUnits_shownCode (places code : Nat) :
    fixedUnits places (.ofCode (shownCode places code)) = fixedUnits places (.ofCode code) := by
  refine roundHalfEven_of_nearer unitsPerOne_pos ?_
  rw [Nat.dist_comm _ ((Magnitude.ofCode (shownCode places code)).units * _),
    Nat.dist_comm _ ((Magnitude.ofCode code).units * _)]
  exact Double.nearestCode_nearest _ (tenTo_pos places) code

/-- A whole number is read only where its own text is shown. -/
theorem shownCode_eq {k code' : Nat} (h : (Magnitude.ofCode code').units = k * unitsPerOne) :
    shownCode places code = code' ↔ fixedUnits places (.ofCode code) = k * tenTo places := by
  constructor
  · intro hcode
    rw [← fixedUnits_shownCode, hcode, fixedUnits_of_units places h]
  · intro hunits
    unfold shownCode
    rw [hunits]
    refine Double.nearestCode_of_units (tenTo_pos places) ?_
    rw [h, Nat.mul_right_comm]

theorem shownCode_eq_zero :
    shownCode places code = 0 ↔ fixedUnits places (.ofCode code) = 0 := by
  rw [shownCode_eq Double.units_zeroCode, Nat.zero_mul]

theorem display_ofCode {negative : Bool} (places : Int) (h : code < infinityCode) :
    (display places (Double.ofCode negative code)).toList
      = displayMagnitude (min places.toNat maxPlaces) negative (.ofCode code) := by
  unfold display
  rw [Double.form_ofCode h]
  exact String.toList_ofList

theorem isSign_signChars (negative : Bool) (units : Nat) : IsSign (signChars negative units) := by
  unfold signChars
  split
  · exact .minus
  · exact .none

theorem signChars_beq (negative : Bool) (units : Nat) :
    (signChars negative units == ['-']) = (negative && units != 0) := by
  unfold signChars
  cases negative && units != 0 <;> rfl

/-- A numeral whose decimal is a rounded magnitude gives the double nearest to it. -/
theorem toFloat_of_ratio {d : Digits} {units : Nat} (negative : Bool)
    (h : d.ratio.1 * tenTo places = units * d.ratio.2) :
    d.toFloat negative
      = Double.ofCode negative (min (nearestCode units (tenTo places)) infinityCode) := by
  rw [toFloat_eq_nearest]
  unfold nearest
  rw [Double.nearestCode_congr (ratio_pos d) (tenTo_pos places) h]

/-- **The text of a double is read as the double nearest to what is shown**, and never as a
negative zero. -/
theorem real_display {negative : Bool} (places : Int) (h : code < infinityCode) :
    real? (display places (Double.ofCode negative code)).toList
      = some (Double.ofCode (negative && shownCode (min places.toNat maxPlaces) code != 0)
        (shownCode (min places.toNat maxPlaces) code)) := by
  rw [display_ofCode places h, displayMagnitude_eq]
  generalize min places.toNat maxPlaces = p
  obtain ⟨d, hspells, hratio⟩ := trimmedChars_spells p (fixedUnits p (.ofCode code))
  have hzero : (fixedUnits p (.ofCode code) != 0) = (shownCode p code != 0) := by
    rw [Bool.eq_iff_iff, bne_iff_ne, bne_iff_ne, ne_eq, ne_eq, shownCode_eq_zero]
  have hmin : min (nearestCode (fixedUnits p (.ofCode code)) (tenTo p)) infinityCode
      = shownCode p code := Nat.min_eq_left (Nat.le_of_lt (shownCode_lt p h))
  rw [hspells.real (isSign_signChars _ _), signChars_beq, hzero, toFloat_of_ratio _ hratio, hmin]

end

end AlgebraDesk.Decimal

import AlgebraDesk.Proofs.Double.Sum

/-!
# Products, quotients and sums are rounded once

The arithmetic computes a mantissa that may be too long or come with a remainder, shifts it to its
place, keeping two bits of what is lost, and rounds.  The outcome is the double nearest to the exact
product, quotient or sum.

* `extended`            a quotient with what two bits tell of its remainder;
* `nearestCode_of_binade`   a quotient is rounded in one binade only;
* `pack_round`          what is shifted and rounded is the nearest double;
* `mul_ofCode`, `div_ofCode`, `add_ofCode`   the three operations;
* `add_eq_of_units`     a sum that is a double is that double.
-/

namespace AlgebraDesk.Double

open Decimal (roundHalfEven twoTo twoTo_pos twoTo_zero twoTo_succ)
open Float.Model (UnpackedFloat Format totalExponent)
open Float.Model.UnpackedFloat

/-! ## two bits of a remainder -/

/-- A quotient, whether its remainder reaches half of the divisor, and whether it is neither nothing
nor just the half. -/
def extended (num den : Nat) : ExtendedMantissa where
  mantissa := num / den
  roundBit := den ≤ 2 * (num % den)
  stickyBit := num % den ≠ 0 ∧ 2 * (num % den) ≠ den

section
variable {num den : Nat}

theorem extended_one (m : Nat) : extended m 1 = .ofMantissaAndAccuracy m .exact := by
  unfold extended ExtendedMantissa.ofMantissaAndAccuracy
  simp [Nat.mod_one]

theorem extended_fraction (hden : 0 < den) : extended num den
    = .ofMantissaAndAccuracy (num / den) (accuracyOfFraction (num % den) den) := by
  unfold extended accuracyOfFraction
  by_cases hzero : num % den = 0
  · rw [if_pos hzero]
    simp [hzero, ExtendedMantissa.ofMantissaAndAccuracy]
    omega
  · rw [if_neg hzero]
    rcases Nat.lt_trichotomy (2 * (num % den)) den with h | h | h
    · rw [Nat.compare_eq_lt.mpr h]
      simp [ExtendedMantissa.ofMantissaAndAccuracy, hzero]
      omega
    · rw [Nat.compare_eq_eq.mpr h]
      simp [ExtendedMantissa.ofMantissaAndAccuracy, h]
    · rw [Nat.compare_eq_gt.mpr h]
      simp [ExtendedMantissa.ofMantissaAndAccuracy, hzero]
      omega

theorem shiftRightOne_extended (hden : 0 < den) :
    (extended num den).shiftRightOne = extended num (den * 2) := by
  have hmod : num % (den * 2) = num % den + den * (num / den % 2) := Nat.mod_mul
  have hlt : num % den < den := Nat.mod_lt num hden
  unfold extended ExtendedMantissa.shiftRightOne
  simp only [hmod, ← Nat.div_div_eq_div_mul, ExtendedMantissa.mk.injEq, true_and]
  rcases Nat.mod_two_eq_zero_or_one (num / den) with h | h
  · rw [h, Nat.mul_zero, Nat.add_zero]
    constructor
    · simp
      omega
    · rw [← Bool.decide_or, decide_eq_decide]
      omega
  · rw [h, Nat.mul_one]
    constructor
    · simp
      omega
    · rw [← Bool.decide_or, decide_eq_decide]
      omega

/-- Shifting divides. -/
theorem shiftRight_extended (hden : 0 < den) (k : Nat) :
    extended num den >>> k = extended num (den * twoTo k) := by
  show k.repeat ExtendedMantissa.shiftRightOne _ = _
  induction k with
  | zero => rw [twoTo_zero, Nat.mul_one]; rfl
  | succ k ih =>
    rw [Nat.repeat, ih, shiftRightOne_extended (Nat.mul_pos hden (twoTo_pos k)), twoTo_succ,
      Nat.mul_assoc]

/-- The two bits are all that rounding looks at. -/
theorem roundedMantissa_extended (hden : 0 < den) :
    (extended num den).roundedMantissa = roundHalfEven num den := by
  unfold ExtendedMantissa.roundedMantissa extended roundHalfEven
  rcases Nat.lt_trichotomy (2 * (num % den)) den with h | h | h
  · have hround : decide (den ≤ 2 * (num % den)) = false := decide_eq_false (by omega)
    rw [if_pos h, hround]
    cases decide (num % den ≠ 0 ∧ 2 * (num % den) ≠ den) <;> rfl
  · have hround : decide (den ≤ 2 * (num % den)) = true := decide_eq_true (by omega)
    have hsticky : decide (num % den ≠ 0 ∧ 2 * (num % den) ≠ den) = false :=
      decide_eq_false (by omega)
    rw [if_neg (by omega), if_neg (by omega), hround, hsticky]
    rfl
  · have hround : decide (den ≤ 2 * (num % den)) = true := decide_eq_true (by omega)
    have hsticky : decide (num % den ≠ 0 ∧ 2 * (num % den) ≠ den) = true :=
      decide_eq_true (by omega)
    rw [if_neg (by omega), if_pos h, hround, hsticky]
    rfl

/-! ## the binade of a quotient -/

/-- Equal quotients are rounded to the same integer. -/
theorem roundHalfEven_congr {num' den' : Nat} (hden : 0 < den) (hden' : 0 < den')
    (h : num * den' = num' * den) : roundHalfEven num den = roundHalfEven num' den' := by
  calc roundHalfEven num den
      = roundHalfEven (num * den') (den * den') := (Decimal.roundHalfEven_scale hden').symm
    _ = roundHalfEven (num' * den) (den' * den) := by rw [h, Nat.mul_comm den]
    _ = roundHalfEven num' den' := Decimal.roundHalfEven_scale hden

/-- **A quotient lies in one binade**, where it is rounded. -/
theorem nearestCode_of_binade (hden : 0 < den) {scale : Nat}
    (hlt : num * unitsPerOne < twoTo 53 * (den * twoTo scale))
    (hle : scale = 0 ∨ twoTo 52 * (den * twoTo scale) ≤ num * unitsPerOne) :
    nearestCode num den
      = scale * twoTo 52 + roundHalfEven (num * unitsPerOne) (den * twoTo scale) := by
  obtain ⟨scale', hcode, hlt', hle'⟩ := nearestCode_eq num hden
  have hends : ∀ {s s' : Nat}, num * unitsPerOne < twoTo 53 * (den * twoTo s) →
      (s' = 0 ∨ twoTo 52 * (den * twoTo s') ≤ num * unitsPerOne) → s' ≤ s := by
    intro s s' hend hbegin
    rcases hbegin with rfl | hbegin
    · exact Nat.zero_le s
    · by_contra hs
      have hpow : twoTo 53 * twoTo s ≤ twoTo 52 * twoTo s' := by
        rw [← twoTo_add, ← twoTo_add]
        exact twoTo_le_twoTo (by omega)
      have hscaled := Nat.mul_le_mul_left den hpow
      rw [Nat.mul_left_comm, Nat.mul_left_comm den] at hscaled
      omega
  obtain rfl : scale = scale' := Nat.le_antisymm (hends hlt' hle) (hends hlt hle')
  exact hcode

end

/-! ## shifting and rounding -/

section
variable {m : Nat} {e : Int}

/-- The exponent of a mantissa with 53 bits, or the lowest there is. -/
theorem targetExponent_eq (n : Int) :
    Format.binary64.targetExponent n = max (n - 53) (-1074) := rfl

theorem log2_scaled (hm : 0 < m) (k : Nat) : (m * twoTo k).log2 = m.log2 + k := by
  induction k with
  | zero => rw [twoTo_zero, Nat.mul_one, Nat.add_zero]
  | succ k ih =>
    have hk : m * twoTo k ≠ 0 := Nat.ne_of_gt (Nat.mul_pos hm (twoTo_pos k))
    rw [twoTo_succ, ← Nat.mul_assoc, Nat.mul_comm, Nat.log2_two_mul hk, ih, Nat.add_assoc]

theorem targetExponent_scaled (hm : 0 < m) (k : Nat) :
    Format.binary64.targetExponent (Float.Model.totalExponent (m * twoTo k) (e - k))
      = Format.binary64.targetExponent (Float.Model.totalExponent m e) := by
  have hlog := log2_scaled hm k
  unfold Float.Model.totalExponent
  rw [hlog]
  congr 1
  omega

end

/-- Past the last binade there is only infinity. -/
theorem pack_overflow {s : Sign} {code : Nat} (h : infinityCode ≤ code)
    (hm : 0 < (Magnitude.ofCode code).mantissa) :
    Float.Model.pack (.finite s (Magnitude.ofCode code).mantissa
      ((Magnitude.ofCode code).scale - unitExponent) hm) = .pack (.infinity s) := by
  have hscale : 2046 ≤ (Magnitude.ofCode code).scale := by
    rw [infinityCode_eq] at h
    unfold Magnitude.ofCode
    rw [twoTo_52, twoTo_53, if_neg (by omega)]
    show 2046 ≤ code / 4503599627370496 - 1
    omega
  have hbias : Format.binary64.exponentBias = 1023 := rfl
  have hbits : Format.binary64.mantissaBitsWithoutImplicit = 52 := rfl
  have hbinades : 2 ^ Format.binary64.exponentBits = 2048 := rfl
  have hlast : 2 ^ Format.binary64.exponentBits
      ≤ (((Magnitude.ofCode code).scale : Int) - unitExponent + Format.binary64.exponentBias
        + Format.binary64.mantissaBitsWithoutImplicit).toNat + 1 := by
    rw [hbias, hbits, hbinades, unitExponent]
    omega
  unfold Float.Model.pack
  rw [Float.Model.mk.injEq, UInt64.ofBitVec.injEq]
  exact if_pos hlast

theorem pack_parts (negative : Bool) (code : Nat) :
    (⟨.pack (parts negative (.ofCode code))⟩ : Float) =
      ofCode negative (min code infinityCode) := by
  rcases Nat.lt_or_ge code infinityCode with h | h
  · rw [Nat.min_eq_left (Nat.le_of_lt h), ofCode_eq_pack h]
  · have hcode : code ≠ 0 := Nat.ne_of_gt (Nat.lt_of_lt_of_le (by decide) h)
    obtain ⟨hm, hparts⟩ := parts_of_pos negative hcode
    rw [Nat.min_eq_right h, hparts, pack_overflow h hm]
    cases negative <;> rfl

/-- The mantissa after rounding, which may have filled the binade. -/
theorem magnitude_ofCode {scale mantissa : Nat} (hle : mantissa ≤ twoTo 53)
    (hfull : scale = 0 ∨ twoTo 52 ≤ mantissa) :
    Magnitude.ofCode (scale * twoTo 52 + mantissa)
      = if mantissa = twoTo 53 then ⟨twoTo 52, scale + 1⟩ else ⟨mantissa, scale⟩ := by
  unfold Magnitude.ofCode
  rw [twoTo_52, twoTo_53] at *
  split <;> split <;> rw [Magnitude.mk.injEq] <;> omega

section
variable {m num den scale k : Nat} {acc : Accuracy}

theorem shift_again {mantissa : Nat} (hle : mantissa ≤ twoTo 53) :
    shiftToTargetExponent Format.binary64 mantissa (scale - unitExponent) .exact
      = if mantissa = twoTo 53 then
          (extended (twoTo 52) 1, (scale + 1 : Nat) - (unitExponent : Int))
        else (extended mantissa 1, scale - unitExponent) := by
  have htarget : ∀ n : Nat, Format.binary64.targetExponent
      (totalExponent n (scale - unitExponent)) =
        max ((n.log2 : Int) - 52 + scale - 1074) (-1074) := by
    intro n
    rw [targetExponent_eq]
    unfold totalExponent unitExponent
    congr 1
    omega
  unfold shiftToTargetExponent shiftToExponent
  simp only [htarget]
  split
  · rename_i hfull
    have hlog : (twoTo 53).log2 = 53 := by rfl
    have hshift : (max (((twoTo 53).log2 : Int) - 52 + scale - 1074) (-1074)
        - (scale - unitExponent)).toNat = 1 := by
      rw [hlog]
      unfold unitExponent
      omega
    rw [hfull, hshift, ← extended_one, shiftRight_extended Nat.one_pos]
    refine Prod.ext ?_ ?_
    · show extended (twoTo 53) (1 * twoTo 1) = extended (twoTo 52) 1
      rfl
    · show (scale : Int) - unitExponent + (1 : Nat) = _
      omega
  · rename_i hfull
    have hlog : mantissa.log2 ≤ 52 := by
      rcases Nat.eq_zero_or_pos mantissa with rfl | hpos
      · decide
      · have hlt : mantissa < twoTo 53 := Nat.lt_of_le_of_ne hle hfull
        exact Nat.le_of_lt_succ ((Nat.log2_lt (Nat.ne_of_gt hpos)).mpr hlt)
    have hshift : (max ((mantissa.log2 : Int) - 52 + scale - 1074) (-1074)
        - (scale - unitExponent)).toNat = 0 := by
      unfold unitExponent
      omega
    rw [hshift, extended_one]
    refine Prod.ext rfl ?_
    show (scale : Int) - unitExponent + (0 : Nat) = _
    omega

/-- **Shifting, rounding and shifting again** puts the rounded mantissa into its binade. -/
theorem roundWithAccuracy_eq (negative : Bool) (hden : 0 < den)
    (hacc : ExtendedMantissa.ofMantissaAndAccuracy m acc = extended num den)
    (htarget : Format.binary64.targetExponent (totalExponent m (scale - unitExponent - k))
      = scale - unitExponent)
    (hle : roundHalfEven num (den * twoTo k) ≤ twoTo 53)
    (hfull : scale = 0 ∨ twoTo 52 ≤ roundHalfEven num (den * twoTo k)) :
    roundWithAccuracy Format.binary64 (sign negative) m (scale - unitExponent - k) acc
      = parts negative (.ofCode (scale * twoTo 52 + roundHalfEven num (den * twoTo k))) := by
  have hfirst : shiftToTargetExponent Format.binary64 m (scale - unitExponent - k) acc
      = (extended num (den * twoTo k), (scale : Int) - unitExponent) := by
    have hshift : ((scale : Int) - unitExponent - (scale - unitExponent - k)).toNat = k := by omega
    unfold shiftToTargetExponent shiftToExponent
    simp only [htarget, hacc, hshift, shiftRight_extended hden]
    refine Prod.ext rfl ?_
    show (scale : Int) - unitExponent - k + k = _
    omega
  have hmantissa : ∀ n : Nat, (extended n 1).mantissa = n := fun n => Nat.div_one n
  unfold roundWithAccuracy
  simp only [hfirst, roundedMantissa_extended (Nat.mul_pos hden (twoTo_pos k)), shift_again hle]
  unfold parts
  rw [magnitude_ofCode hle hfull]
  split
  · simp only [hmantissa]
  · simp only [hmantissa]

theorem mantissa_of_extended
    (hacc : ExtendedMantissa.ofMantissaAndAccuracy m acc = extended num den) :
    (extended num den).mantissa = m := by
  rw [← hacc]
  unfold ExtendedMantissa.ofMantissaAndAccuracy
  split <;> rfl

/-- Where a mantissa is put: it is shifted so far that it has 53 bits, but not out of the lowest
binade. -/
theorem exists_place {e : Int} (h : e ≤ Format.binary64.targetExponent (totalExponent m e)) :
    ∃ scale k : Nat, Format.binary64.targetExponent (totalExponent m e) = scale - unitExponent ∧
      e = scale - unitExponent - k ∧ (scale = 0 ∨ twoTo 52 * twoTo k ≤ m) ∧
      m + 1 ≤ twoTo 53 * twoTo k := by
  have hmax : Format.binary64.targetExponent (totalExponent m e)
      = max ((m.log2 : Int) + 1 + e - 53) (-1074) := targetExponent_eq _
  have hlt : m < twoTo (m.log2 + 1) := Nat.lt_log2_self
  rw [hmax] at h ⊢
  generalize ht : max ((m.log2 : Int) + 1 + e - 53) (-1074) = t at *
  have hunit : (unitExponent : Int) = 1074 := rfl
  refine ⟨(t + 1074).toNat, (t - e).toNat, by omega, by omega, ?_, ?_⟩
  · by_cases hzero : (t + 1074).toNat = 0
    · exact .inl hzero
    · have hlog : 52 + (t - e).toNat = m.log2 := by omega
      have hm : m ≠ 0 := by
        rintro rfl
        rw [Nat.log2_zero] at hlog
        omega
      rw [← twoTo_add, hlog]
      exact .inr (Nat.log2_self_le hm)
  · rw [← twoTo_add]
    exact Nat.succ_le_of_lt (Nat.lt_of_lt_of_le hlt (twoTo_le_twoTo (by omega)))

/-- **What is shifted and rounded is the double nearest to the exact value**, which is written here
as a quotient of units and as the mantissa with its remainder. -/
theorem pack_round (negative : Bool) {i j a b : Nat} {e : Int} (hden : 0 < den) (hb : 0 < b)
    (hacc : ExtendedMantissa.ofMantissaAndAccuracy m acc = extended num den)
    (he : e = j - i - unitExponent)
    (hvalue : num * twoTo j * b = a * unitsPerOne * (den * twoTo i))
    (hplace : e ≤ Format.binary64.targetExponent (totalExponent m e)) :
    (⟨.pack (roundWithAccuracy Format.binary64 (sign negative) m e acc)⟩ : Float)
      = nearest negative a b := by
  have hm : m = num / den := by
    rw [← mantissa_of_extended hacc]
    rfl
  obtain ⟨scale, k, htarget, hplaced, hlow, hhigh⟩ := exists_place hplace
  have hexponent : j + k = i + scale := by omega
  have hpow : twoTo j * twoTo k = twoTo i * twoTo scale := by
    rw [← twoTo_add, ← twoTo_add, hexponent]
  have hstep : 0 < den * twoTo k := Nat.mul_pos hden (twoTo_pos k)
  have hstep' : 0 < b * twoTo scale := Nat.mul_pos hb (twoTo_pos scale)
  -- the two quotients are the same
  have hcross : num * (b * twoTo scale) = a * unitsPerOne * (den * twoTo k) := by
    refine Nat.eq_of_mul_eq_mul_right (twoTo_pos j) ?_
    calc num * (b * twoTo scale) * twoTo j
        = num * twoTo j * b * twoTo scale := by ring
      _ = a * unitsPerOne * den * (twoTo i * twoTo scale) := by rw [hvalue]; ring
      _ = a * unitsPerOne * (den * twoTo k) * twoTo j := by rw [← hpow]; ring
  have hend : num < twoTo 53 * (den * twoTo k) := by
    calc num < den * (num / den + 1) := Nat.lt_mul_div_succ num hden
      _ ≤ den * (twoTo 53 * twoTo k) := Nat.mul_le_mul_left den (hm ▸ hhigh)
      _ = twoTo 53 * (den * twoTo k) := Nat.mul_left_comm _ _ _
  have hbegin : scale = 0 ∨ twoTo 52 * (den * twoTo k) ≤ num := by
    refine hlow.imp_right fun h => ?_
    calc twoTo 52 * (den * twoTo k) = den * (twoTo 52 * twoTo k) := Nat.mul_left_comm _ _ _
      _ ≤ den * (num / den) := Nat.mul_le_mul_left den (hm ▸ h)
      _ ≤ num := Nat.mul_div_le num den
  have hround := roundHalfEven_congr hstep hstep' hcross
  have hcode : nearestCode a b = scale * twoTo 52 + roundHalfEven num (den * twoTo k) := by
    rw [hround]
    refine nearestCode_of_binade hb ?_ (hbegin.imp_right fun h => ?_)
    · refine Nat.lt_of_mul_lt_mul_right (a := den * twoTo k) ?_
      rw [← hcross, Nat.mul_right_comm]
      exact Nat.mul_lt_mul_of_pos_right hend hstep'
    · refine Nat.le_of_mul_le_mul_right (c := den * twoTo k) ?_ hstep
      rw [← hcross, Nat.mul_right_comm]
      exact Nat.mul_le_mul_right _ h
  rw [hplaced, roundWithAccuracy_eq negative hden hacc (hplaced ▸ htarget)
    (Decimal.roundHalfEven_le_of_lt hstep hend)
    (hbegin.imp_right (Decimal.le_roundHalfEven_of_le hstep)), pack_parts, ← hcode]
  rfl

end

/-! ## the operations -/

section
variable {s₁ s₂ : Bool} {c₁ c₂ : Nat}

theorem nearest_zero (negative : Bool) {den : Nat} (hden : 0 < den) :
    nearest negative 0 den = ofCode negative 0 := by
  unfold nearest
  rw [nearestCode_zero hden, Nat.zero_min]

theorem units_eq_zero {c : Nat} : (Magnitude.ofCode c).units = 0 ↔ c = 0 := by
  have h := Magnitude.units_inj (c := c) (d := 0)
  rwa [Magnitude.units_ofCode_zero] at h

theorem sign_mul (s s' : Bool) : sign s * sign s' = sign (s != s') := by
  cases s <;> cases s' <;> rfl

theorem sign_div (s s' : Bool) : sign s / sign s' = sign (s != s') := by
  cases s <;> cases s' <;> rfl

/-- A mantissa with enough bits, or one in the lowest binade, is not out of its place. -/
theorem le_target {m : Nat} {e : Int} (h : e ≤ -1074 ∨ twoTo 52 ≤ m) :
    e ≤ Format.binary64.targetExponent (totalExponent m e) := by
  rw [targetExponent_eq]
  unfold totalExponent
  rcases h with h | h
  · omega
  · have hlog : 52 ≤ m.log2 :=
      (Nat.le_log2 (Nat.ne_of_gt (Nat.lt_of_lt_of_le (twoTo_pos 52) h))).mpr h
    omega

/-- A dividend is lengthened so that the quotient has enough bits. -/
theorem exists_divCore {m₁ m₂ : Nat} (hm₁ : 0 < m₁) (hm₂ : 0 < m₂) (e₁ e₂ : Int) :
    ∃ (shift : Nat) (e : Int), divCore Format.binary64 m₁ e₁ m₂ e₂
        = (m₁ * twoTo shift / m₂, e, accuracyOfFraction (m₁ * twoTo shift % m₂) m₂) ∧
      e = e₁ - e₂ - shift ∧
      e ≤ Format.binary64.targetExponent (totalExponent (m₁ * twoTo shift / m₂) e) := by
  have htarget : Format.binary64.targetExponent (totalExponent m₁ e₁ - totalExponent m₂ e₂)
      = max ((m₁.log2 : Int) + e₁ - m₂.log2 - e₂ - 53) (-1074) := by
    rw [targetExponent_eq]
    unfold totalExponent
    congr 1
    omega
  generalize he : min (e₁ - e₂) (Format.binary64.targetExponent
    (totalExponent m₁ e₁ - totalExponent m₂ e₂)) = e
  refine ⟨(e₁ - e₂ - e).toNat, e, ?_, by omega, le_target ?_⟩
  · unfold divCore
    simp only [he, Nat.shiftLeft_eq]
    rfl
  · rw [htarget] at he
    by_cases hlow : e ≤ -1074
    · exact .inl hlow
    · refine .inr ((Nat.le_div_iff_mul_le hm₂).mpr ?_)
      have hlarge : twoTo m₁.log2 ≤ m₁ := Nat.log2_self_le (Nat.ne_of_gt hm₁)
      have hsmall : m₂ ≤ twoTo (m₂.log2 + 1) := Nat.le_of_lt Nat.lt_log2_self
      calc twoTo 52 * m₂ ≤ twoTo 52 * twoTo (m₂.log2 + 1) := Nat.mul_le_mul_left _ hsmall
        _ = twoTo (52 + (m₂.log2 + 1)) := (twoTo_add _ _).symm
        _ ≤ twoTo (m₁.log2 + (e₁ - e₂ - e).toNat) := twoTo_le_twoTo (by omega)
        _ = twoTo m₁.log2 * twoTo (e₁ - e₂ - e).toNat := twoTo_add _ _
        _ ≤ m₁ * twoTo (e₁ - e₂ - e).toNat := Nat.mul_le_mul_right _ hlarge

/-- **A product is rounded once.** -/
theorem mul_ofCode (h₁ : c₁ < infinityCode) (h₂ : c₂ < infinityCode) :
    ofCode s₁ c₁ * ofCode s₂ c₂ = nearest (s₁ != s₂)
      ((Magnitude.ofCode c₁).units * (Magnitude.ofCode c₂).units)
      (unitsPerOne * unitsPerOne) := by
  have hone : 0 < unitsPerOne * unitsPerOne := Nat.mul_pos unitsPerOne_pos unitsPerOne_pos
  show (⟨.pack (UnpackedFloat.mul Format.binary64 (ofCode s₁ c₁).toModel.unpack
    (ofCode s₂ c₂).toModel.unpack)⟩ : Float) = _
  rw [unpack_ofCode h₁, unpack_ofCode h₂]
  by_cases hzero : c₁ = 0 ∨ c₂ = 0
  · have hunits : (Magnitude.ofCode c₁).units * (Magnitude.ofCode c₂).units = 0 := by
      rw [Nat.mul_eq_zero, units_eq_zero, units_eq_zero]
      exact hzero
    have hproduct : UnpackedFloat.mul Format.binary64 (parts s₁ (.ofCode c₁))
        (parts s₂ (.ofCode c₂)) = parts (s₁ != s₂) (.ofCode 0) := by
      rw [parts_zero, ← sign_mul]
      rcases hzero with rfl | rfl
      · rw [parts_zero]
        unfold parts
        split <;> rfl
      · rw [parts_zero]
        unfold parts
        split <;> rfl
    rw [hunits, nearest_zero _ hone, hproduct, pack_parts]
    rfl
  · rw [not_or] at hzero
    obtain ⟨hm₁, hp₁⟩ := parts_of_pos s₁ hzero.1
    obtain ⟨hm₂, hp₂⟩ := parts_of_pos s₂ hzero.2
    rw [hp₁, hp₂]
    show (⟨.pack (roundWithAccuracy Format.binary64 (sign s₁ * sign s₂) _ _ .exact)⟩ : Float) = _
    rw [sign_mul]
    refine pack_round _ Nat.one_pos hone (extended_one _).symm
      (i := unitExponent) (j := (Magnitude.ofCode c₁).scale + (Magnitude.ofCode c₂).scale)
      (by omega) ?_ ?_
    · unfold Magnitude.units
      rw [twoTo_add, unitsPerOne_eq]
      ring
    · refine le_target ?_
      rcases Magnitude.le_mantissa c₁ with hlow₁ | hfull₁
      · rcases Magnitude.le_mantissa c₂ with hlow₂ | hfull₂
        · rw [hlow₁, hlow₂]
          exact .inl (by decide)
        · exact .inr (hfull₂.trans (Nat.le_mul_of_pos_left _ hm₁))
      · exact .inr (hfull₁.trans (Nat.le_mul_of_pos_right _ hm₂))

/-- **A quotient is rounded once.** -/
theorem div_ofCode (h₁ : c₁ < infinityCode) (h₂ : c₂ < infinityCode) (hc₂ : c₂ ≠ 0) :
    ofCode s₁ c₁ / ofCode s₂ c₂ = nearest (s₁ != s₂) (Magnitude.ofCode c₁).units
      (Magnitude.ofCode c₂).units := by
  obtain ⟨hm₂, hp₂⟩ := parts_of_pos s₂ hc₂
  have hunits : 0 < (Magnitude.ofCode c₂).units := Nat.mul_pos hm₂ (twoTo_pos _)
  show (⟨.pack (UnpackedFloat.div Format.binary64 (ofCode s₁ c₁).toModel.unpack
    (ofCode s₂ c₂).toModel.unpack)⟩ : Float) = _
  rw [unpack_ofCode h₁, unpack_ofCode h₂]
  by_cases hzero : c₁ = 0
  · have hquotient : UnpackedFloat.div Format.binary64 (parts s₁ (.ofCode 0))
        (parts s₂ (.ofCode c₂)) = parts (s₁ != s₂) (.ofCode 0) := by
      rw [parts_zero, parts_zero, hp₂, ← sign_div]
      rfl
    rw [hzero, Magnitude.units_ofCode_zero, nearest_zero _ hunits, hquotient, pack_parts]
    rfl
  · obtain ⟨hm₁, hp₁⟩ := parts_of_pos s₁ hzero
    rw [hp₁, hp₂]
    obtain ⟨shift, e, hcore, he, hplace⟩ := exists_divCore hm₁ hm₂
      ((Magnitude.ofCode c₁).scale - unitExponent) ((Magnitude.ofCode c₂).scale - unitExponent)
    unfold UnpackedFloat.div
    simp only [hcore, sign_div]
    refine pack_round _ hm₂ hunits (extended_fraction hm₂).symm
      (i := (Magnitude.ofCode c₂).scale + shift)
      (j := (Magnitude.ofCode c₁).scale + unitExponent) (by omega) ?_ hplace
    unfold Magnitude.units
    rw [twoTo_add, twoTo_add, unitsPerOne_eq]
    ring

/-- A double is nearest to its own units. -/
theorem nearest_units (negative : Bool) {c : Nat} (h : c < infinityCode) :
    nearest negative (Magnitude.ofCode c).units unitsPerOne = ofCode negative c := by
  unfold nearest
  rw [nearestCode_of_units unitsPerOne_pos rfl, Nat.min_eq_left (Nat.le_of_lt h)]

theorem round_eq_nearest (negative : Bool) {m : Nat} (hm : 0 < m) (j : Nat) :
    (⟨.pack (UnpackedFloat.round Format.binary64 (sign negative) m (j - unitExponent))⟩ : Float)
      = nearest negative (m * twoTo j) unitsPerOne := by
  generalize hshift : ((j : Int) - unitExponent
    - Format.binary64.targetExponent (totalExponent m (j - unitExponent))).toNat = shift
  have hscaled : Format.binary64.targetExponent
      (totalExponent (m * twoTo shift) (j - unitExponent - shift))
      = Format.binary64.targetExponent (totalExponent m (j - unitExponent)) :=
    targetExponent_scaled hm shift
  unfold UnpackedFloat.round decreaseExponent
  simp only [hshift, Nat.shiftLeft_eq]
  refine pack_round _ Nat.one_pos unitsPerOne_pos (extended_one (m * twoTo shift)).symm
    (i := shift) (j := j) (by omega) (by ring) ?_
  show (j : Int) - unitExponent - shift ≤ Format.binary64.targetExponent
    (totalExponent (m * twoTo shift) (j - unitExponent - shift))
  rw [hscaled]
  omega

theorem normalize_eq_nearest (M : Int) (j : Nat) :
    (⟨.pack (normalize Format.binary64 M (j - unitExponent) .positive)⟩ : Float)
      = nearest (M < 0) (M.natAbs * twoTo j) unitsPerOne := by
  unfold UnpackedFloat.normalize
  rcases Int.lt_trichotomy M 0 with h | rfl | h
  · have hnat : (-M).toNat = M.natAbs := by omega
    rw [show compare M 0 = .lt from Int.compare_eq_lt.mpr h, decide_eq_true h, hnat]
    exact round_eq_nearest true (by omega) j
  · rw [Int.natAbs_zero, Nat.zero_mul, nearest_zero _ unitsPerOne_pos]
    show (⟨.pack (.zero .positive)⟩ : Float) = ofCode false 0
    rfl
  · have hnat : M.toNat = M.natAbs := by omega
    rw [show compare M 0 = .gt from Int.compare_eq_gt.mpr h, decide_eq_false (by omega), hnat]
    exact round_eq_nearest false (by omega) j

theorem nearest_signed (negative : Bool) {c : Nat} (h : c < infinityCode) (hc : c ≠ 0) :
    nearest (signed negative (Magnitude.ofCode c).units < 0)
      (signed negative (Magnitude.ofCode c).units).natAbs unitsPerOne = ofCode negative c := by
  have hpos : (Magnitude.ofCode c).units ≠ 0 := fun h0 => hc (units_eq_zero.mp h0)
  have hsign : decide (signed negative (Magnitude.ofCode c).units < 0) = negative := by
    cases negative <;> simp [signed]
    omega
  rw [hsign, natAbs_signed, nearest_units _ h]

theorem decide_mul_neg (M : Int) {k : Nat} (hk : 0 < k) :
    decide (M * (k : Int) < 0) = decide (M < 0) := by
  have hpos : (0 : Int) < k := Int.natCast_pos.mpr hk
  rw [decide_eq_decide, ← Int.neg_pos, ← Int.neg_mul, mul_pos_iff_of_pos_right hpos, Int.neg_pos]

/-- **A sum is rounded once**, unless both summands are zero. -/
theorem add_ofCode (h₁ : c₁ < infinityCode) (h₂ : c₂ < infinityCode) (hne : c₁ ≠ 0 ∨ c₂ ≠ 0) :
    ofCode s₁ c₁ + ofCode s₂ c₂
      = nearest (signed s₁ (Magnitude.ofCode c₁).units + signed s₂ (Magnitude.ofCode c₂).units < 0)
        (signed s₁ (Magnitude.ofCode c₁).units + signed s₂ (Magnitude.ofCode c₂).units).natAbs
        unitsPerOne := by
  by_cases hc₁ : c₁ = 0
  · have hc₂ : c₂ ≠ 0 := hne.resolve_left (fun h => h hc₁)
    obtain ⟨hm₂, hp₂⟩ := parts_of_pos s₂ hc₂
    rw [hc₁, Magnitude.units_ofCode_zero, signed_eq_zero.mpr rfl, Int.zero_add,
      nearest_signed s₂ h₂ hc₂]
    show (⟨.pack (UnpackedFloat.add Format.binary64 (ofCode s₁ 0).toModel.unpack
      (ofCode s₂ c₂).toModel.unpack)⟩ : Float) = _
    rw [unpack_ofCode (by decide), unpack_ofCode h₂, parts_zero, ofCode_eq_pack h₂, hp₂]
    rfl
  · by_cases hc₂ : c₂ = 0
    · rw [hc₂, Magnitude.units_ofCode_zero, signed_eq_zero.mpr rfl, Int.add_zero,
        nearest_signed s₁ h₁ hc₁, add_zero_ofCode h₁ hc₁]
    · obtain ⟨M, j, hadd, hunits⟩ := @add_of_ne_zero s₁ s₂ c₁ c₂ h₁ h₂ hc₁ hc₂
      rw [hadd, normalize_eq_nearest, ← hunits, Int.natAbs_mul, Int.natAbs_natCast,
        decide_mul_neg M (twoTo_pos _)]

end

/-- **A sum that is a double is that double**, when no negative zero is in play. -/
theorem add_eq_of_units {x y z : Float} (hx : x.isFinite = true) (hy : y.isFinite = true)
    (hz : z.isFinite = true) (hx0 : x ≠ -0) (hz0 : z ≠ -0)
    (h : units x + units y = units z) : x + y = z := by
  obtain ⟨s₁, c₁, h₁, rfl⟩ := eq_ofCode_of_isFinite hx
  obtain ⟨s₂, c₂, h₂, rfl⟩ := eq_ofCode_of_isFinite hy
  obtain ⟨s₃, c₃, h₃, rfl⟩ := eq_ofCode_of_isFinite hz
  have positive {s : Bool} {c : Nat} (hne : ofCode s c ≠ -0) (hc : c = 0) : s = false := by
    cases s with
    | false => rfl
    | true => exact absurd (by rw [hc, negativeZero_eq_ofCode]) hne
  rw [units_ofCode h₁, units_ofCode h₂, units_ofCode h₃] at h
  by_cases hzero : c₁ = 0 ∧ c₂ = 0
  · obtain ⟨rfl, rfl⟩ := hzero
    have hc₃ : c₃ = 0 := by
      rw [Magnitude.units_ofCode_zero, signed_eq_zero.mpr rfl, signed_eq_zero.mpr rfl] at h
      exact units_eq_zero.mp (signed_eq_zero.mp h.symm)
    rw [positive hx0 rfl, positive hz0 hc₃, hc₃]
    cases s₂ <;> rfl
  · rw [add_ofCode h₁ h₂ (by omega), h]
    by_cases hc₃ : c₃ = 0
    · rw [positive hz0 hc₃, hc₃, Magnitude.units_ofCode_zero]
      exact nearest_zero _ unitsPerOne_pos
    · exact nearest_signed s₃ h₃ hc₃

end AlgebraDesk.Double

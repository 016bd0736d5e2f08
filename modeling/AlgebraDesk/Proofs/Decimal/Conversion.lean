import AlgebraDesk.Proofs.Decimal.Digits
import AlgebraDesk.Proofs.Double.Integer

/-!
# From decimals to doubles

A decimal is read as the nearest double.  Powers of ten far outside the range of doubles are not
computed: a decimal that small is nearest to zero, and one that large is out of range.

* `nearestCode_of_underflow`     small decimals;
* `le_nearestCode_of_overflow`   large decimals;
* `toFloat_eq_nearest`           every decimal.
-/

namespace AlgebraDesk.Decimal

open Double (Magnitude nearest nearestCode unitsPerOne infinityCode)

theorem ratio_of_nonneg {d : Digits} (h : 0 ≤ d.exponent) :
    d.ratio = (d.significand * tenTo d.exponent.toNat, 1) := if_pos h

theorem ratio_of_neg {d : Digits} (h : ¬ 0 ≤ d.exponent) :
    d.ratio = (d.significand, tenTo (-d.exponent).toNat) := if_neg h

theorem ratio_pos (d : Digits) : 0 < d.ratio.2 := by
  unfold Digits.ratio
  split
  · exact Nat.one_pos
  · exact tenTo_pos _

/-- Below half a unit nothing is left. -/
theorem nearestCode_of_tiny {num den : Nat} (h : 2 * (num * unitsPerOne) < den) :
    nearestCode num den = 0 := by
  have hden : 0 < den := Nat.zero_lt_of_lt h
  have hbest := Double.nearestCode_nearest num hden 0
  by_contra hc
  have hlt := Magnitude.units_lt_units.mpr (Nat.pos_of_ne_zero hc)
  rw [Magnitude.units_ofCode_zero] at hbest hlt
  have hone : 1 * den ≤ (Magnitude.ofCode (nearestCode num den)).units * den :=
    Nat.mul_le_mul_right den hlt
  unfold Nat.dist at hbest
  omega

theorem units_le_tenTo : 2 * unitsPerOne ≤ tenTo 401 := by decide +kernel

theorem twoTo_le_tenTo : twoTo 1024 ≤ tenTo 400 := by decide +kernel

/-- A decimal below 10 ^ -400 is nearest to zero. -/
theorem nearestCode_of_underflow {d : Digits}
    (h : d.exponent + (digits d.significand).length < -400) :
    nearestCode d.ratio.1 d.ratio.2 = 0 := by
  rw [ratio_of_neg (by omega)]
  refine nearestCode_of_tiny ?_
  calc 2 * (d.significand * unitsPerOne)
      = d.significand * (2 * unitsPerOne) := Nat.mul_left_comm _ _ _
    _ ≤ d.significand * tenTo 401 := Nat.mul_le_mul_left _ units_le_tenTo
    _ < tenTo (digits d.significand).length * tenTo 401 :=
        Nat.mul_lt_mul_of_pos_right (lt_tenTo_length _) (tenTo_pos 401)
    _ = tenTo ((digits d.significand).length + 401) := (tenTo_add _ _).symm
    _ ≤ tenTo (-d.exponent).toNat := tenTo_le_tenTo (by omega)

/-- A decimal from 10 ^ 400 upward is out of range. -/
theorem le_nearestCode_of_overflow {d : Digits} (hd : d.significand ≠ 0)
    (h : 400 < d.exponent + (digits d.significand).length) :
    infinityCode ≤ nearestCode d.ratio.1 d.ratio.2 := by
  have hlow := tenTo_length_le hd
  have hratio : tenTo 400 * d.ratio.2 ≤ d.ratio.1 := by
    by_cases he : 0 ≤ d.exponent
    · rw [ratio_of_nonneg he]
      calc tenTo 400 * 1
          = tenTo 400 := Nat.mul_one _
        _ ≤ tenTo ((digits d.significand).length - 1 + d.exponent.toNat) :=
            tenTo_le_tenTo (by omega)
        _ = tenTo ((digits d.significand).length - 1) * tenTo d.exponent.toNat := tenTo_add _ _
        _ ≤ d.significand * tenTo d.exponent.toNat := Nat.mul_le_mul_right _ hlow
    · rw [ratio_of_neg he]
      calc tenTo 400 * tenTo (-d.exponent).toNat
          = tenTo (400 + (-d.exponent).toNat) := (tenTo_add _ _).symm
        _ ≤ tenTo ((digits d.significand).length - 1) := tenTo_le_tenTo (by omega)
        _ ≤ d.significand := hlow
  refine Double.le_nearestCode (ratio_pos d) ?_
  rw [Double.units_infinityCode]
  calc twoTo 1024 * unitsPerOne * d.ratio.2
      = twoTo 1024 * d.ratio.2 * unitsPerOne := Nat.mul_right_comm _ _ _
    _ ≤ tenTo 400 * d.ratio.2 * unitsPerOne :=
        Nat.mul_le_mul_right _ (Nat.mul_le_mul_right _ twoTo_le_tenTo)
    _ ≤ d.ratio.1 * unitsPerOne := Nat.mul_le_mul_right _ hratio

/-- **Reading a decimal rounds correctly**, also where its powers of ten are not computed. -/
theorem toFloat_eq_nearest (negative : Bool) (d : Digits) :
    d.toFloat negative = nearest negative d.ratio.1 d.ratio.2 := by
  unfold Digits.toFloat nearest
  simp only
  by_cases hz : d.significand = 0
  · have hnum : d.ratio.1 = 0 := by
      unfold Digits.ratio
      split <;> simp [hz]
    rw [if_pos (.inl hz), hnum, Double.nearestCode_zero (ratio_pos d), Nat.zero_min]
  · split
    · rename_i hsmall
      rw [nearestCode_of_underflow (hsmall.resolve_left hz), Nat.zero_min]
    · split
      · rename_i hlarge
        rw [Nat.min_eq_right (le_nearestCode_of_overflow hz hlarge)]
      · rfl

theorem toFloat_whole (negative : Bool) (n : Nat) :
    (⟨n, 0⟩ : Digits).toFloat negative = nearest negative n 1 := by
  rw [toFloat_eq_nearest, ratio_of_nonneg (Int.le_refl 0)]
  show nearest negative (n * tenTo 0) 1 = _
  rw [tenTo_zero, Nat.mul_one]

end AlgebraDesk.Decimal

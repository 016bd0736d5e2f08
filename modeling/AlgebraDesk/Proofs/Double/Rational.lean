import AlgebraDesk.Proofs.Double.Integer
import Mathlib.Algebra.Order.Field.Rat

/-!
# Doubles and fractions

A finite double is a fraction, and rounding a fraction gives a double whatever its numerator and
denominator are.

* `rational`    the fraction that a double is;
* `nearestTo`   the double nearest to a fraction;
* `nearest_eq_nearestTo`   a fraction that is not in lowest terms.
-/

namespace AlgebraDesk.Double

/-! ## the value of a double -/

/-- The exact value of a finite double. -/
def rational (x : Float) : Rat := units x / unitsPerOne

theorem rational_zero : rational 0 = 0 := by
  unfold rational
  rw [zero_eq_ofCode, units_zero, Int.cast_zero, zero_div]

theorem unitsPerOne_ne_zero : (unitsPerOne : Rat) ≠ 0 :=
  Nat.cast_ne_zero.mpr (Nat.ne_of_gt unitsPerOne_pos)

/-- **A small integer is the value of its double.** -/
theorem rational_integer {n : Int} (h : IsSmall n) : rational (integer n) = n := by
  unfold rational
  rw [units_integer h, Int.cast_mul, Int.cast_natCast]
  exact mul_div_cancel_right₀ _ unitsPerOne_ne_zero

theorem isFinite_infinite (negative : Bool) : (ofCode negative infinityCode).isFinite = false := by
  cases negative <;> rfl

theorem nearestCode_lt {negative : Bool} {num den : Nat}
    (h : (nearest negative num den).isFinite = true) : nearestCode num den < infinityCode := by
  by_contra hlarge
  unfold nearest at h
  rw [Nat.min_eq_right (Nat.not_lt.mp hlarge), isFinite_infinite] at h
  cases h

/-- **Rounding is the same on both sides of zero.** -/
theorem rational_nearest {negative : Bool} {num den : Nat}
    (h : (nearest negative num den).isFinite = true) :
    rational (nearest negative num den)
      = if negative then -rational (nearest false num den)
        else rational (nearest false num den) := by
  have hcode := nearestCode_lt h
  cases negative with
  | false => rfl
  | true =>
    unfold rational nearest
    rw [Nat.min_eq_left (Nat.le_of_lt hcode), units_ofCode hcode, units_ofCode hcode, if_pos rfl]
    unfold signed
    rw [if_pos rfl, if_neg Bool.false_ne_true, Int.cast_neg, neg_div]

/-! ## the double nearest to a fraction -/

/-- The double nearest to a fraction. -/
def nearestTo (v : Rat) : Float := nearest (v < 0) v.num.natAbs v.den

section
variable {num den : Nat}

theorem nearestTo_zero : nearestTo 0 = 0 := by
  show nearest (decide ((0 : Rat) < 0)) 0 1 = 0
  rw [decide_eq_false (lt_irrefl _)]
  exact integer_zero

/-- A quotient has the numerator and the denominator of its fraction up to a factor. -/
theorem natAbs_num_mul (negative : Bool) (num : Nat) (hden : 0 < den) :
    ((signed negative num : Rat) / den).num.natAbs * den
      = num * ((signed negative num : Rat) / den).den := by
  have hden0 : (den : Rat) ≠ 0 := Nat.cast_ne_zero.mpr (Nat.ne_of_gt hden)
  generalize hv : (signed negative num : Rat) / den = v
  have hv0 : (v.den : Rat) ≠ 0 := Nat.cast_ne_zero.mpr v.den_nz
  have hcross : v.num * den = signed negative num * v.den := by
    have h := (div_eq_div_iff hv0 hden0).mp ((Rat.num_div_den v).trans hv.symm)
    exact_mod_cast h
  have habs := congrArg Int.natAbs hcross
  rw [Int.natAbs_mul, Int.natAbs_mul, Int.natAbs_natCast, Int.natAbs_natCast,
    natAbs_signed] at habs
  exact habs

theorem signed_div_lt_zero {negative : Bool} (hden : 0 < den) :
    (signed negative num : Rat) / den < 0 ↔ negative = true ∧ num ≠ 0 := by
  have hden0 : (0 : Rat) < den := Nat.cast_pos.mpr hden
  rw [div_lt_iff₀ hden0, zero_mul]
  cases negative with
  | false =>
    have hle : ¬ ((signed false num : Int) : Rat) < 0 := by
      show ¬ (((num : Int)) : Rat) < 0
      rw [Int.cast_natCast]
      exact not_lt.mpr (Nat.cast_nonneg num)
    exact ⟨fun h => absurd h hle, nofun⟩
  | true =>
    show ((-(num : Int) : Int) : Rat) < 0 ↔ _
    rw [Int.cast_lt_zero]
    constructor
    · exact fun h => ⟨rfl, by omega⟩
    · exact fun ⟨_, h⟩ => by omega

/-- **Rounding does not depend on how a fraction is written**, but for the sign of zero. -/
theorem nearest_eq_nearestTo {negative : Bool} (hden : 0 < den)
    (hzero : nearest negative num den ≠ -0) :
    nearest negative num den = nearestTo ((signed negative num : Rat) / den) := by
  have hcode : nearestCode ((signed negative num : Rat) / den).num.natAbs
      ((signed negative num : Rat) / den).den = nearestCode num den :=
    nearestCode_congr (Rat.den_pos _) hden (natAbs_num_mul negative num hden)
  have hsign : decide ((signed negative num : Rat) / den < 0) = negative := by
    rw [Bool.eq_iff_iff, decide_eq_true_iff, signed_div_lt_zero hden]
    refine and_iff_left_of_imp ?_
    rintro rfl rfl
    refine hzero ?_
    rw [negativeZero_eq_ofCode]
    unfold nearest
    rw [nearestCode_zero hden, Nat.zero_min]
  unfold nearestTo nearest
  rw [hcode, hsign]

end

end AlgebraDesk.Double

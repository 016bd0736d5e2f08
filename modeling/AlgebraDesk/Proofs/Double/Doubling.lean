import AlgebraDesk.Proofs.Double.Rounded

/-!
# Twice a double

Twice a double is zero only when the double is.  Rounding keeps the order, so twice a magnitude is
not rounded below it; past the last binade the result is infinite, and twice an infinity or what is
not a number stays that.

* `two_mul_ofCode_beq_zero`   twice a finite double that is not zero;
* `two_mul_beq_zero`          a divisor that is twice a number.
-/

namespace AlgebraDesk.Double

open Decimal (twoTo)
open Float.Model (UnpackedFloat Format)
open Float.Model.UnpackedFloat

def twoCode : Nat := 1024 * twoTo 52

theorem two_eq_ofCode : (2 : Float) = ofCode false twoCode := by rfl

theorem units_twoCode : (Magnitude.ofCode twoCode).units = 2 * unitsPerOne := by
  have hcode : twoCode = 1023 * twoTo 52 + twoTo 52 := by decide
  have htwo : twoTo 1 = 2 := rfl
  rw [hcode, units_binade (j := 1) (by decide), htwo]

theorem two_mul_ofCode_beq_zero {negative : Bool} {code : Nat} (h : code < infinityCode)
    (hc : code ≠ 0) : (2 * ofCode negative code == 0) = false := by
  rw [two_eq_ofCode, mul_ofCode (by decide) h, units_twoCode]
  have hle : code ≤ nearestCode (2 * unitsPerOne * (Magnitude.ofCode code).units)
      (unitsPerOne * unitsPerOne) := by
    refine le_nearestCode (Nat.mul_pos unitsPerOne_pos unitsPerOne_pos) ?_
    calc (Magnitude.ofCode code).units * (unitsPerOne * unitsPerOne)
        ≤ 2 * ((Magnitude.ofCode code).units * (unitsPerOne * unitsPerOne)) :=
          Nat.le_mul_of_pos_left _ Nat.two_pos
      _ = 2 * unitsPerOne * (Magnitude.ofCode code).units * unitsPerOne := by ring
  unfold nearest
  rcases Nat.lt_or_ge (nearestCode (2 * unitsPerOne * (Magnitude.ofCode code).units)
    (unitsPerOne * unitsPerOne)) infinityCode with hlt | hge
  · rw [Nat.min_eq_left (Nat.le_of_lt hlt), beq_zero_ofCode hlt]
    exact beq_eq_false_iff_ne.mpr (by omega)
  · rw [Nat.min_eq_right hge]
    cases negative <;> rfl

/-- **Twice a divisor is a divisor.** -/
theorem two_mul_beq_zero {a : Float} (h : (a == 0) = false) : (2 * a == 0) = false := by
  cases hfinite : a.isFinite with
  | true =>
    obtain ⟨negative, code, hcode, rfl⟩ := eq_ofCode_of_isFinite hfinite
    rw [beq_zero_ofCode hcode] at h
    exact two_mul_ofCode_beq_zero hcode (beq_eq_false_iff_ne.mp h)
  | false =>
    show ((⟨.pack (UnpackedFloat.mul Format.binary64 (2 : Float).toModel.unpack
      a.toModel.unpack)⟩ : Float) == 0) = false
    have hparts : a.toModel.unpack.isFinite = false := hfinite
    cases hunpack : a.toModel.unpack with
    | notANumber => rfl
    | infinity s => cases s <;> rfl
    | zero s => simp [hunpack, UnpackedFloat.isFinite] at hparts
    | finite s m e hm => simp [hunpack, UnpackedFloat.isFinite] at hparts

end AlgebraDesk.Double

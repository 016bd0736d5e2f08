import AlgebraDesk.Proofs.Double.Monotone

/-!
# Correct rounding

What a fraction is rounded to is told without the rounding: no finite double is nearer to it, and
where another one is as near, the last bit is zero.

* `IsClosest`           the double to which a fraction is rounded correctly;
* `isClosest_nearest`   a fraction that is not negative is rounded correctly.
-/

namespace AlgebraDesk.Double

/-- No finite double is nearer to `v` than `x`; when another one is as near, the last bit of `x` is
zero. -/
structure IsClosest (v : Rat) (x : Float) : Prop where
  finite : x.isFinite = true
  near : ∀ y : Float, y.isFinite = true → |rational x - v| ≤ |rational y - v|
  even : ∀ y : Float, y.isFinite = true → rational y ≠ rational x →
    |rational x - v| = |rational y - v| → x.toBits.toNat % 2 = 0

/-! ## distances -/

theorem cast_dist (m n : Nat) : (Nat.dist m n : Rat) = |(m : Rat) - n| := by
  rcases Nat.le_total m n with h | h
  · rw [Nat.dist_eq_sub_of_le h, Nat.cast_sub h, abs_sub_comm,
      abs_of_nonneg (sub_nonneg.mpr (Nat.cast_le.mpr h))]
  · rw [Nat.dist_eq_sub_of_le_right h, Nat.cast_sub h,
      abs_of_nonneg (sub_nonneg.mpr (Nat.cast_le.mpr h))]

section
variable {num den c : Nat}

theorem rational_ofCode {negative : Bool} (h : c < infinityCode) :
    rational (ofCode negative c) = signed negative (Magnitude.ofCode c).units / unitsPerOne := by
  unfold rational
  rw [units_ofCode h]

/-- The distance of a fraction from a double, over the common denominator. -/
theorem distance_ofCode (hden : 0 < den) (h : c < infinityCode) :
    |rational (ofCode false c) - num / den|
      = Nat.dist ((Magnitude.ofCode c).units * den) (num * unitsPerOne) / (unitsPerOne * den) := by
  have hpos : (0 : Rat) < den := Nat.cast_pos.mpr hden
  have hone : (0 : Rat) < unitsPerOne := Nat.cast_pos.mpr unitsPerOne_pos
  have hscale : (0 : Rat) < unitsPerOne * den := mul_pos hone hpos
  rw [rational_ofCode h, signed_false, Int.cast_natCast, div_sub_div _ _ hone.ne' hpos.ne', abs_div,
    abs_of_pos hscale, cast_dist, Nat.cast_mul, Nat.cast_mul,
    mul_comm (unitsPerOne : Rat) (num : Rat)]

/-- A double without a sign that is at least as near to a fraction as any given one. -/
theorem exists_unsigned {v : Rat} (hv : 0 ≤ v) {y : Float} (hy : y.isFinite = true) :
    ∃ c, c < infinityCode ∧ |rational (ofCode false c) - v| ≤ |rational y - v| ∧
      (|rational (ofCode false c) - v| = |rational y - v| →
        rational (ofCode false c) = rational y) := by
  obtain ⟨s, c, hc, rfl⟩ := eq_ofCode_of_isFinite hy
  cases s with
  | false => exact ⟨c, hc, le_refl _, fun _ => rfl⟩
  | true =>
    -- zero lies between a negative double and the fraction
    have hone : (0 : Rat) < unitsPerOne := Nat.cast_pos.mpr unitsPerOne_pos
    have hneg : rational (ofCode true c) ≤ 0 := by
      rw [rational_ofCode hc, signed_true, Int.cast_neg, Int.cast_natCast, neg_div]
      exact neg_nonpos.mpr (div_nonneg (Nat.cast_nonneg _) hone.le)
    have hzero : rational (ofCode false 0) = 0 := rational_zero
    refine ⟨0, by decide, ?_, fun h => ?_⟩
    · rw [hzero, abs_of_nonpos (by linarith), abs_of_nonpos (by linarith)]
      linarith
    · rw [hzero, abs_of_nonpos (by linarith), abs_of_nonpos (by linarith)] at h
      rw [hzero]
      linarith

/-! ## rounding -/

/-- **A fraction is rounded correctly.** -/
theorem isClosest_nearest (hden : 0 < den) (h : (nearest false num den).isFinite = true) :
    IsClosest (num / den) (nearest false num den) := by
  have hcode := nearestCode_lt h
  have hx : nearest false num den = ofCode false (nearestCode num den) := by
    unfold nearest
    rw [Nat.min_eq_left hcode.le]
  have hone : (0 : Rat) < unitsPerOne := Nat.cast_pos.mpr unitsPerOne_pos
  have hscale : (0 : Rat) < unitsPerOne * den := mul_pos hone (Nat.cast_pos.mpr hden)
  have hv : (0 : Rat) ≤ num / den := div_nonneg (Nat.cast_nonneg _) (Nat.cast_nonneg _)
  have hbest : ∀ c, c < infinityCode → |rational (nearest false num den) - num / den|
      ≤ |rational (ofCode false c) - num / den| := by
    intro c hc
    rw [hx, distance_ofCode hden hcode, distance_ofCode hden hc]
    exact div_le_div_of_nonneg_right (Nat.cast_le.mpr (nearestCode_nearest num hden c)) hscale.le
  constructor
  · exact h
  · intro y hy
    obtain ⟨c, hc, hle, -⟩ := exists_unsigned hv hy
    exact (hbest c hc).trans hle
  · intro y hy hne heq
    obtain ⟨c, hc, hle, hsame⟩ := exists_unsigned hv hy
    have htie : |rational (nearest false num den) - num / den|
        = |rational (ofCode false c) - num / den| :=
      le_antisymm (hbest c hc) (hle.trans heq.ge)
    have hother : c ≠ nearestCode num den := by
      rintro rfl
      exact hne ((hsame (htie.symm.trans heq)).symm.trans (congrArg rational hx.symm))
    rw [hx, distance_ofCode hden hcode, distance_ofCode hden hc, div_left_inj' hscale.ne',
      Nat.cast_inj] at htie
    have heven := even_nearestCode hden hother htie
    rw [hx, toBits_ofCode hcode]
    rw [if_neg Bool.false_ne_true, Nat.zero_add]
    exact heven

end

end AlgebraDesk.Double

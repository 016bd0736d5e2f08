import AlgebraDesk.Proofs.Double.Exact
import Mathlib.Algebra.Order.Field.Basic

/-!
# Rounding keeps the order

A sum, a difference or a quotient of doubles is the exact fraction, rounded.  What is rounded from a
greater fraction is not less; so a fraction can be bounded by doubles, and every small integer over
a power of two is one.

* `Rounds`           a double that is a fraction, rounded, with either sign when that is zero;
* `Rounds.rational_le`   rounding keeps the order;
* `rounds_add`, `rounds_sub`, `rounds_div`, `rounds_self`   the operations;
* `exists_dyadic`    small integers over a power of two.
-/

namespace AlgebraDesk.Double

open Decimal (twoTo twoTo_pos)

/-- The fraction is rounded to the nearest double, which is a zero of either sign when that is
zero. -/
def Rounds (v : Rat) (x : Float) : Prop :=
  ∃ (s : Bool) (num den : Nat), 0 < den ∧ (signed s num : Rat) / den = v ∧ x = nearest s num den

/-! ## the order -/

section
variable {s t : Bool} {num den num' den' : Nat}

theorem units_nearest (h : (nearest s num den).isFinite = true) :
    units (nearest s num den) = signed s (Magnitude.ofCode (nearestCode num den)).units := by
  have hcode := nearestCode_lt h
  unfold nearest
  rw [Nat.min_eq_left (Nat.le_of_lt hcode), units_ofCode hcode]

theorem units_nearestCode_le (hden : 0 < den) (hden' : 0 < den')
    (h : num * den' ≤ num' * den) : (Magnitude.ofCode (nearestCode num den)).units
      ≤ (Magnitude.ofCode (nearestCode num' den')).units := by
  have hprod := Nat.mul_pos hden hden'
  have hl : nearestCode num den = nearestCode (num * den') (den * den') :=
    nearestCode_congr hden hprod (by ring)
  have hr : nearestCode num' den' = nearestCode (num' * den) (den * den') :=
    nearestCode_congr hden' hprod (by ring)
  rw [hl, hr]
  exact Magnitude.units_strictMono.monotone (nearestCode_mono hprod h)

theorem signed_mul_le (hden : 0 < den) (hden' : 0 < den')
    (h : (signed s num : Rat) / den ≤ signed t num' / den') :
    signed s num * den' ≤ signed t num' * den := by
  have hd : (0 : Rat) < den := Nat.cast_pos.mpr hden
  have hd' : (0 : Rat) < den' := Nat.cast_pos.mpr hden'
  have hcross := (div_le_div_iff₀ hd hd').mp h
  exact_mod_cast hcross

/-- The order of two fractions with signs is the order of what they are rounded to. -/
theorem signed_units_le (hden : 0 < den) (hden' : 0 < den')
    (h : signed s num * den' ≤ signed t num' * den) :
    signed s (Magnitude.ofCode (nearestCode num den)).units
      ≤ signed t (Magnitude.ofCode (nearestCode num' den')).units := by
  rw [signed_mul, signed_mul] at h
  cases s with
  | false =>
    cases t with
    | false =>
      rw [signed_false, signed_false] at h ⊢
      exact Int.ofNat_le.mpr (units_nearestCode_le hden hden' (Int.ofNat_le.mp h))
    | true =>
      -- both fractions are zero
      rw [signed_false, signed_true] at h
      have hnum : num * den' = 0 := by omega
      have hnum' : num' * den = 0 := by omega
      rw [(Nat.mul_eq_zero.mp hnum).resolve_right (Nat.ne_of_gt hden'),
        (Nat.mul_eq_zero.mp hnum').resolve_right (Nat.ne_of_gt hden), nearestCode_zero hden,
        nearestCode_zero hden', Magnitude.units_ofCode_zero]
      decide
  | true =>
    cases t with
    | false =>
      rw [signed_false, signed_true]
      omega
    | true =>
      rw [signed_true, signed_true] at h ⊢
      have hle := Int.ofNat_le.mp (Int.neg_le_neg_iff.mp h)
      exact Int.neg_le_neg (Int.ofNat_le.mpr (units_nearestCode_le hden' hden hle))

end

section
variable {u v : Rat} {x y : Float} {k : Nat}

theorem rational_le_iff : rational x ≤ rational y ↔ units x ≤ units y := by
  have hone : (0 : Rat) < unitsPerOne := Nat.cast_pos.mpr unitsPerOne_pos
  unfold rational
  rw [div_le_div_iff_of_pos_right hone, Int.cast_le]

/-- **Rounding keeps the order.** -/
theorem Rounds.rational_le (hx : Rounds u x) (hy : Rounds v y) (hx' : x.isFinite = true)
    (hy' : y.isFinite = true) (h : u ≤ v) : rational x ≤ rational y := by
  obtain ⟨s, num, den, hden, rfl, rfl⟩ := hx
  obtain ⟨t, num', den', hden', rfl, rfl⟩ := hy
  rw [rational_le_iff, units_nearest hx', units_nearest hy']
  exact signed_units_le hden hden' (signed_mul_le hden hden' h)

theorem Rounds.isFinite (hx : Rounds u x) (hk : k ≤ twoTo 53) (h : |u| ≤ k) :
    x.isFinite = true := by
  obtain ⟨s, num, den, hden, rfl, rfl⟩ := hx
  refine isFinite_nearest hden hk ?_ s
  have hd : (0 : Rat) < den := Nat.cast_pos.mpr hden
  rw [abs_div, Nat.abs_cast, div_le_iff₀ hd, ← Int.cast_abs, Int.abs_eq_natAbs, natAbs_signed] at h
  exact_mod_cast h

theorem rounds_integer (n : Int) : Rounds n (integer n) := by
  refine ⟨_, _, 1, Nat.one_pos, ?_, rfl⟩
  rw [signed_natAbs, Nat.cast_one, div_one]

/-- What bounds a fraction bounds what it is rounded to. -/
theorem Rounds.abs_rational_le (hx : Rounds u x) (hk : k ≤ twoTo 53) (h : |u| ≤ k) :
    |rational x| ≤ k := by
  have hfinite := hx.isFinite hk h
  have hl : IsSmall (-k) := by
    unfold IsSmall
    rwa [Int.natAbs_neg, Int.natAbs_natCast]
  have hr : IsSmall k := hk
  obtain ⟨hlow, hhigh⟩ := abs_le.mp h
  have hleast := (rounds_integer (-k)).rational_le hx (isFinite_integer hl) hfinite
    (by rwa [Int.cast_neg, Int.cast_natCast])
  have hgreatest := hx.rational_le (rounds_integer k) hfinite (isFinite_integer hr)
    (by rwa [Int.cast_natCast])
  rw [rational_integer hl, Int.cast_neg, Int.cast_natCast] at hleast
  rw [rational_integer hr, Int.cast_natCast] at hgreatest
  exact abs_le.mpr ⟨hleast, hgreatest⟩

/-- The order of fractions is the order of the doubles that they are. -/
theorem lt_of_rational_lt (hx : x.isFinite = true) (hy : y.isFinite = true)
    (h : rational x < rational y) : x < y :=
  lt_of_units_lt hx hy (Int.not_le.mp (mt rational_le_iff.mpr (not_le.mpr h)))

/-! ## the operations -/

/-- A double is itself, rounded. -/
theorem rounds_self (hx : x.isFinite = true) : Rounds (rational x) x := by
  obtain ⟨s, c, hc, rfl⟩ := eq_ofCode_of_isFinite hx
  refine ⟨s, (Magnitude.ofCode c).units, unitsPerOne, unitsPerOne_pos, ?_,
    (nearest_units s hc).symm⟩
  unfold rational
  rw [units_ofCode hc]

theorem rounds_add (hx : x.isFinite = true) (hy : y.isFinite = true) :
    Rounds (rational x + rational y) (x + y) := by
  obtain ⟨s, c, hc, rfl⟩ := eq_ofCode_of_isFinite hx
  obtain ⟨t, d, hd, rfl⟩ := eq_ofCode_of_isFinite hy
  unfold rational
  rw [units_ofCode hc, units_ofCode hd, ← add_div, ← Int.cast_add]
  by_cases hne : c ≠ 0 ∨ d ≠ 0
  · refine ⟨_, _, unitsPerOne, unitsPerOne_pos, ?_, add_ofCode hc hd hne⟩
    rw [signed_natAbs]
  · rw [not_or, not_not, not_not] at hne
    obtain ⟨rfl, rfl⟩ := hne
    have hzero : ∃ r, ofCode s 0 + ofCode t 0 = ofCode r 0 := by
      cases s <;> cases t
      · exact ⟨false, rfl⟩
      · exact ⟨false, rfl⟩
      · exact ⟨false, rfl⟩
      · exact ⟨true, rfl⟩
    obtain ⟨r, hr⟩ := hzero
    refine ⟨r, 0, unitsPerOne, unitsPerOne_pos, ?_, ?_⟩
    · rw [Magnitude.units_ofCode_zero]
      simp only [signed_eq_zero.mpr, Int.add_zero]
    · rw [hr, nearest_zero r unitsPerOne_pos]

theorem rational_opposite (hx : x.isFinite = true) : rational (-x) = -rational x := by
  obtain ⟨s, c, hc, rfl⟩ := eq_ofCode_of_isFinite hx
  unfold rational
  rw [opposite_ofCode (Nat.le_of_lt hc), units_ofCode hc, units_ofCode hc, signed_not, Int.cast_neg,
    neg_div]

theorem rounds_sub (hx : x.isFinite = true) (hy : y.isFinite = true) :
    Rounds (rational x - rational y) (x - y) := by
  have hy' : (-y).isFinite = true := by rw [isFinite_opposite, hy]
  rw [sub_eq_add_opposite, sub_eq_add_neg, ← rational_opposite hy]
  exact rounds_add hx hy'

theorem signed_div_signed (s t : Bool) (j k : Nat) :
    (signed (s != t) j : Rat) / k = signed s j / signed t k := by
  cases s <;> cases t <;> simp [signed, neg_div, div_neg]

theorem rounds_div (hx : x.isFinite = true) (hy : y.isFinite = true) (hy0 : rational y ≠ 0) :
    Rounds (rational x / rational y) (x / y) := by
  obtain ⟨s, c, hc, rfl⟩ := eq_ofCode_of_isFinite hx
  obtain ⟨t, d, hd, rfl⟩ := eq_ofCode_of_isFinite hy
  have hd0 : d ≠ 0 := by
    rintro rfl
    refine hy0 ?_
    unfold rational
    rw [units_zero, Int.cast_zero, zero_div]
  have hunits : 0 < (Magnitude.ofCode d).units := Nat.pos_of_ne_zero (mt units_eq_zero.mp hd0)
  refine ⟨_, _, _, hunits, ?_, div_ofCode hc hd hd0⟩
  unfold rational
  rw [units_ofCode hc, units_ofCode hd, signed_div_signed,
    div_div_div_cancel_right₀ unitsPerOne_ne_zero]

end

/-! ## small integers over a power of two -/

theorem cast_twoTo (n : Nat) : ((twoTo n : Nat) : Rat) = 2 ^ n := Nat.cast_pow 2 n

/-- **A small integer over a power of two is a double.** -/
theorem rational_dyadic {t : Bool} {j k : Nat} (hj : j ≤ twoTo 53) (hk : k ≤ unitExponent) :
    (nearest t j (twoTo k)).isFinite = true ∧
      rational (nearest t j (twoTo k)) = (signed t j : Rat) / twoTo k := by
  obtain ⟨c, hc⟩ := exists_code hj (unitExponent - k)
  have hone : unitsPerOne = twoTo (unitExponent - k) * twoTo k := by
    rw [unitsPerOne_eq, ← twoTo_add, Nat.sub_add_cancel hk]
  have hcode : nearestCode j (twoTo k) = c := by
    refine nearestCode_of_units (twoTo_pos k) ?_
    rw [hc, hone, Nat.mul_assoc]
  have hfinite : (nearest t j (twoTo k)).isFinite = true :=
    isFinite_nearest (twoTo_pos k) hj (Nat.le_mul_of_pos_right j (twoTo_pos k)) t
  refine ⟨hfinite, ?_⟩
  unfold rational
  rw [units_nearest hfinite, hcode, hc, ← signed_mul, hone, Int.cast_mul, Int.cast_natCast,
    Nat.cast_mul, mul_comm (twoTo (unitExponent - k) : Rat)]
  exact mul_div_mul_right _ _ (Nat.cast_ne_zero.mpr (Nat.ne_of_gt (twoTo_pos _)))

theorem exists_dyadic {m : Int} {k : Nat} (hm : IsSmall m) (hk : k ≤ unitExponent) :
    ∃ w : Float, w.isFinite = true ∧ rational w = m / 2 ^ k := by
  obtain ⟨hfinite, hrational⟩ := @rational_dyadic (m < 0) _ k hm hk
  rw [signed_natAbs] at hrational
  rw [cast_twoTo] at hrational
  exact ⟨_, hfinite, hrational⟩

end AlgebraDesk.Double

import AlgebraDesk.Proofs.Double.Order
import AlgebraDesk.Proofs.Double.Range

/-!
# Where a part of a length falls on a scale

A distance is divided by a length and the quotient is spread over a number of steps, with three
roundings on the way and one to the nearest step.  Each of them keeps the order, and none of them
leaves the scale: a distance between zero and the length falls between zero and the last step.

* `rounds_mul`, `rational_sub_pos`   products, and differences that are not zero;
* `IsPart`            a distance between zero and a length;
* `IsPart.scaled_mono`, `IsPart.scaled_zero`, `IsPart.scaled_full`   its place on the scale;
* `nearestInteger`, `round?_eq`      the nearest step.
-/

namespace AlgebraDesk.Double

open Decimal (roundHalfEven)

section
variable {x y : Float}

/-! ## products and differences -/

theorem rounds_mul (hx : x.isFinite = true) (hy : y.isFinite = true) :
    Rounds (rational x * rational y) (x * y) := by
  obtain ⟨s, c, hc, rfl⟩ := eq_ofCode_of_isFinite hx
  obtain ⟨t, d, hd, rfl⟩ := eq_ofCode_of_isFinite hy
  refine ⟨_, _, unitsPerOne * unitsPerOne, Nat.mul_pos unitsPerOne_pos unitsPerOne_pos, ?_,
    mul_ofCode hc hd⟩
  unfold rational
  rw [units_ofCode hc, units_ofCode hd, ← signed_mul_signed, Int.cast_mul, Nat.cast_mul,
    mul_div_mul_comm]

/-- The smallest positive double is a unit, so a difference of doubles is not rounded to zero. -/
theorem rational_sub_pos (hx : x.isFinite = true) (hy : y.isFinite = true)
    (hfinite : (x - y).isFinite = true) (h : rational y < rational x) : 0 < rational (x - y) := by
  have hone : (0 : Rat) < unitsPerOne := Nat.cast_pos.mpr unitsPerOne_pos
  have hunit : (Magnitude.ofCode 1).units = 1 := by decide
  have hleast : rational (ofCode false 1) = 1 / unitsPerOne := by
    unfold rational
    rw [units_ofCode (by decide), hunit]
    rfl
  have hdistance : (1 : Rat) / unitsPerOne ≤ rational x - rational y := by
    have hunits : units y < units x := Int.not_le.mp (mt rational_le_iff.mpr (not_le.mpr h))
    rw [rational_sub_rational, div_le_div_iff_of_pos_right hone]
    exact_mod_cast Int.sub_pos_of_lt hunits
  rw [← hleast] at hdistance
  calc (0 : Rat) < 1 / unitsPerOne := one_div_pos.mpr hone
    _ = rational (ofCode false 1) := hleast.symm
    _ ≤ rational (x - y) :=
      (rounds_sub hx hy).le_rational hfinite (isFinite_ofCode (by decide)) hdistance

theorem Rounds.eq_rational {u : Rat} (hx : Rounds u x) (hy : y.isFinite = true)
    (h : u = rational y) : rational x = rational y := by
  have hfinite := hx.isFinite_of_between hy hy h.ge h.le
  exact le_antisymm (hx.rational_le_of_le hfinite hy h.le) (hx.le_rational hfinite hy h.ge)

/-- Zero is not rounded. -/
theorem Rounds.eq_zero {u : Rat} (hx : Rounds u x) (h : u = 0) : rational x = 0 := by
  have heq := hx.eq_rational isFinite_zero (h.trans rational_zero.symm)
  rwa [rational_zero] at heq

theorem rational_one : (integer 1).isFinite = true ∧ rational (integer 1) = 1 := by
  have hone : IsSmall 1 := by decide
  exact ⟨isFinite_integer hone, by rw [rational_integer hone, Int.cast_one]⟩

theorem Rounds.rational_congr {u v : Rat} (hx : Rounds u x) (hy : Rounds v y)
    (hx' : x.isFinite = true) (hy' : y.isFinite = true) (h : u = v) : rational x = rational y :=
  le_antisymm (hx.rational_le hy hx' hy' h.le) (hy.rational_le hx hy' hx' h.ge)

/-! ## the scale -/

/-- A distance between zero and a length. -/
structure IsPart (d w : Float) : Prop where
  distance : d.isFinite = true
  length : w.isFinite = true
  nonneg : 0 ≤ rational d
  le : rational d ≤ rational w
  pos : 0 < rational w

variable {d d' w w' last last' : Float}

namespace IsPart

theorem quotient (h : IsPart d w) : (d / w).isFinite = true ∧ 0 ≤ rational (d / w) ∧
    rational (d / w) ≤ 1 := by
  have hrounds := rounds_div h.distance h.length (ne_of_gt h.pos)
  have hnonneg : 0 ≤ rational d / rational w := div_nonneg h.nonneg h.pos.le
  have hlow : rational 0 ≤ rational d / rational w := rational_zero.trans_le hnonneg
  have hhigh : rational d / rational w ≤ 1 := (div_le_one h.pos).mpr h.le
  obtain ⟨hone, hvalue⟩ := rational_one
  rw [← hvalue] at hhigh ⊢
  have hfinite := hrounds.isFinite_of_between isFinite_zero hone hlow hhigh
  exact ⟨hfinite, hrounds.nonneg hfinite hnonneg, hrounds.rational_le_of_le hfinite hone hhigh⟩

variable (hlast : last.isFinite = true) (hlast0 : 0 ≤ rational last)
include hlast hlast0

theorem isFinite_scaled (h : IsPart d w) : (d / w * last).isFinite = true := by
  obtain ⟨hfinite, hlow, hhigh⟩ := h.quotient
  exact (rounds_mul hfinite hlast).isFinite_of_between isFinite_zero hlast
    (by rw [rational_zero]; exact mul_nonneg hlow hlast0) (mul_le_of_le_one_left hlast0 hhigh)

/-- **A greater part of the same length falls no lower.**  Only the values of the two lengths have to
be the same. -/
theorem scaled_mono (h : IsPart d w) (h' : IsPart d' w') (hd : rational d ≤ rational d')
    (hw : rational w = rational w') : rational (d / w * last) ≤ rational (d' / w' * last) := by
  have hquotient : rational (d / w) ≤ rational (d' / w') := by
    refine (rounds_div h.distance h.length (ne_of_gt h.pos)).rational_le
      (rounds_div h'.distance h'.length (ne_of_gt h'.pos)) h.quotient.1 h'.quotient.1 ?_
    rw [hw]
    exact div_le_div_of_nonneg_right hd h'.pos.le
  exact (rounds_mul h.quotient.1 hlast).rational_le (rounds_mul h'.quotient.1 hlast)
    (h.isFinite_scaled hlast hlast0) (h'.isFinite_scaled hlast hlast0)
    (mul_le_mul_of_nonneg_right hquotient hlast0)

omit hlast0 in
/-- Nothing falls on the beginning. -/
theorem scaled_zero (h : IsPart d w) (hd : rational d = 0) : rational (d / w * last) = 0 := by
  have hquotient : rational (d / w) = 0 :=
    (rounds_div h.distance h.length (ne_of_gt h.pos)).eq_zero (by rw [hd, zero_div])
  exact (rounds_mul h.quotient.1 hlast).eq_zero (by rw [hquotient, zero_mul])

omit hlast0 in
/-- The whole length falls on the end. -/
theorem scaled_full (h : IsPart d w) (hd : rational d = rational w) :
    rational (d / w * last) = rational last := by
  obtain ⟨hone, hvalue⟩ := rational_one
  have hquotient : rational (d / w) = 1 := by
    rw [← hvalue]
    refine (rounds_div h.distance h.length (ne_of_gt h.pos)).eq_rational hone ?_
    rw [hd, div_self (ne_of_gt h.pos), hvalue]
  exact (rounds_mul h.quotient.1 hlast).eq_rational hlast (by rw [hquotient, one_mul])

end IsPart

/-! ## the nearest step -/

/-- The integer nearest to a number of units. -/
def nearestInteger (n : Int) : Int := signed (n < 0) (roundHalfEven n.natAbs unitsPerOne)

theorem round?_eq (hx : x.isFinite = true) : round? x = some (nearestInteger (units x)) := by
  obtain ⟨s, c, hc, rfl⟩ := eq_ofCode_of_isFinite hx
  have hround : round? (ofCode s c) = some (signed s (Magnitude.ofCode c).rounded) := by
    unfold round?
    rw [form_ofCode hc]
  rw [hround, units_ofCode hc, nearestInteger, natAbs_signed]
  refine congrArg some (signed_inj.mpr ⟨rfl, ?_⟩)
  show roundHalfEven (Magnitude.ofCode c).units unitsPerOne = 0 ∨ _
  rcases Nat.eq_zero_or_pos (Magnitude.ofCode c).units with hzero | hpos
  · rw [hzero]
    exact .inl (Decimal.roundHalfEven_zero unitsPerOne_pos)
  · refine .inr ?_
    cases s with
    | false => exact (decide_eq_false (Int.not_lt.mpr (Int.natCast_nonneg _))).symm
    | true =>
      have hneg : signed true (Magnitude.ofCode c).units < 0 :=
        Int.neg_neg_of_pos (by exact_mod_cast hpos)
      exact (decide_eq_true hneg).symm

theorem nearestInteger_mono {m n : Int} (h : m ≤ n) : nearestInteger m ≤ nearestInteger n := by
  unfold nearestInteger
  by_cases hm : m < 0
  · rw [decide_eq_true hm, signed_true]
    by_cases hn : n < 0
    · rw [decide_eq_true hn, signed_true, Int.neg_le_neg_iff, Int.ofNat_le]
      exact Decimal.roundHalfEven_mono (by omega)
    · rw [decide_eq_false hn, signed_false]
      omega
  · rw [decide_eq_false hm, signed_false, decide_eq_false (by omega), signed_false, Int.ofNat_le]
    exact Decimal.roundHalfEven_mono (by omega)

theorem nearestInteger_mul (k : Int) : nearestInteger (k * unitsPerOne) = k := by
  unfold nearestInteger
  rw [Int.natAbs_mul, Int.natAbs_natCast, Decimal.roundHalfEven_mul _ unitsPerOne_pos,
    decide_mul_neg k unitsPerOne_pos, signed_natAbs]

/-- An integer that is exactly a double. -/
theorem nearestInteger_of_rational {k : Int} (h : rational x = k) :
    nearestInteger (units x) = k := by
  have hunits : units x = k * unitsPerOne := by
    unfold rational at h
    rw [div_eq_iff unitsPerOne_ne_zero] at h
    exact_mod_cast h
  rw [hunits, nearestInteger_mul]

end

end AlgebraDesk.Double

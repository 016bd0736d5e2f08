import AlgebraDesk.Proofs.Double.Comparison
import AlgebraDesk.Proofs.Double.Rational
import AlgebraDesk.Proofs.Double.Rounded

/-!
# Exact arithmetic on small integers

Products and sums of small integers are exact when they are small; a quotient of small integers is
rounded once.  The results are written with a sign and a magnitude, since a zero keeps the sign that
the operation gives it.

* `mul_nearest`, `div_nearest`, `add_nearest`, `opposite_nearest`   the operations on small numbers;
* `integer_lt_iff`     the order of small integers;
* `signed_mul_signed`  the sign of a product.
-/

namespace AlgebraDesk.Double

open Decimal (twoTo twoTo_pos)
open Float.Model (UnpackedFloat)

/-! ## operations on small numbers -/

section
variable {s t : Bool} {j k : Nat}

theorem nearest_congr {a b a' b' : Nat} (hb : 0 < b) (hb' : 0 < b') (h : a * b' = a' * b) :
    nearest s a b = nearest s a' b' := by
  unfold nearest
  rw [nearestCode_congr hb hb' h]

theorem mul_nearest (hj : j ≤ twoTo 53) (hk : k ≤ twoTo 53) :
    nearest s j 1 * nearest t k 1 = nearest (s != t) (j * k) 1 := by
  obtain ⟨c, hc, hj, hcu⟩ := nearest_small hj
  obtain ⟨d, hd, hk, hdu⟩ := nearest_small hk
  rw [hj, hk, mul_ofCode hc hd, hcu, hdu]
  refine nearest_congr (Nat.mul_pos unitsPerOne_pos unitsPerOne_pos) Nat.one_pos ?_
  ring

theorem div_nearest (hj : j ≤ twoTo 53) (hk : k ≤ twoTo 53) (hpos : 0 < k) :
    nearest s j 1 / nearest t k 1 = nearest (s != t) j k := by
  obtain ⟨c, hc, hj, hcu⟩ := nearest_small hj
  obtain ⟨d, hd, hk, hdu⟩ := nearest_small hk
  have hzero : d ≠ 0 := code_ne_zero hdu (Nat.ne_of_gt hpos)
  rw [hj, hk, div_ofCode hc hd hzero, hcu, hdu]
  refine nearest_congr (Nat.mul_pos hpos unitsPerOne_pos) hpos ?_
  ring

theorem opposite_ofCode {c : Nat} (hc : c ≤ infinityCode) : -ofCode s c = ofCode (!s) c := by
  rcases Nat.lt_or_eq_of_le hc with h | rfl
  · rw [@ofCode_eq_pack (!s) c h]
    show (⟨.pack (ofCode s c).toModel.unpack.neg⟩ : Float) = _
    rw [unpack_ofCode h]
    unfold parts
    split <;> cases s <;> rfl
  · cases s <;> rfl

theorem opposite_nearest (num den : Nat) : -nearest s num den = nearest (!s) num den :=
  opposite_ofCode (Nat.min_le_right _ _)

/-- A sum of small numbers that are not both zero. -/
theorem add_nearest (hj : j ≤ twoTo 53) (hk : k ≤ twoTo 53) (hne : j ≠ 0 ∨ k ≠ 0) :
    nearest s j 1 + nearest t k 1 = integer (signed s j + signed t k) := by
  obtain ⟨c, hc, hj', hcu⟩ := nearest_small hj
  obtain ⟨d, hd, hk', hdu⟩ := nearest_small hk
  rw [hj', hk', add_ofCode hc hd (hne.imp (code_ne_zero hcu) (code_ne_zero hdu)), hcu, hdu,
    ← signed_mul, ← signed_mul, ← Int.add_mul, Int.natAbs_mul, Int.natAbs_natCast,
    decide_mul_neg _ unitsPerOne_pos]
  exact nearest_congr unitsPerOne_pos Nat.one_pos (Nat.mul_one _)

end

/-! ## small integers -/

section
variable {m n : Int}

theorem integer_lt (hm : IsSmall m) (hn : IsSmall n) (h : m < n) : integer m < integer n := by
  refine lt_of_units_lt (isFinite_integer hm) (isFinite_integer hn) ?_
  rw [units_integer hm, units_integer hn]
  exact Int.mul_lt_mul_of_pos_right h (Int.natCast_pos.mpr unitsPerOne_pos)

/-- **Small integers have the order of their doubles.** -/
theorem integer_lt_iff (hm : IsSmall m) (hn : IsSmall n) : integer m < integer n ↔ m < n := by
  refine ⟨fun h => ?_, integer_lt hm hn⟩
  rcases Int.lt_trichotomy m n with hlt | rfl | hgt
  · exact hlt
  · exact absurd h (not_lt_of_lt h)
  · exact absurd h (not_lt_of_lt (integer_lt hn hm hgt))

theorem integer_pos_iff (hn : IsSmall n) : integer n > 0 ↔ 0 < n := by
  have h := @integer_lt_iff 0 n (by decide) hn
  rwa [integer_zero] at h

theorem integer_beq_zero (hn : IsSmall n) : (integer n == 0) = (n == 0) := by
  obtain ⟨c, hc, he, hu⟩ := integer_eq hn
  rw [he, beq_zero_ofCode hc, beq_code_zero hu]

theorem signed_mul_signed (s t : Bool) (j k : Nat) :
    signed s j * signed t k = signed (s != t) (j * k) := by
  cases s <;> cases t <;> simp [signed]

theorem signed_not (s : Bool) (k : Nat) : signed (!s) k = -signed s k := by
  cases s <;> simp [signed]

end

end AlgebraDesk.Double

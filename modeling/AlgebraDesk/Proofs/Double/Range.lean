import AlgebraDesk.Proofs.Double.Monotone

/-!
# When a difference leaves the range

The difference of two finite doubles is finite as long as the exact difference is nearer to some
double than to 2 ^ 1024, and infinite from there on; it is never anything else.

* `infinityCode_le_nearestCode_units`   the bound, in units;
* `Rounds.finite_or_infinite`           what a rounded fraction can be;
* `isFinite_sub_iff`                    the bound, for a difference.
-/

namespace AlgebraDesk.Double

/-! ## the bound -/

/-- Numbers of units from which on no double is nearest. -/
theorem infinityCode_le_nearestCode_units (k : Nat) :
    infinityCode ≤ nearestCode k unitsPerOne ↔ tooLargeFrom * unitsPerOne ≤ k :=
  le_nearestCode_iff unitsPerOne_pos (by decide +kernel) (by decide +kernel) k

section
variable {n : Int} {v : Rat} {x y : Float}

/-- A fraction of units is rounded as such. -/
theorem Rounds.exists_units (h : Rounds (n / unitsPerOne) x) :
    ∃ s, x = nearest s n.natAbs unitsPerOne := by
  obtain ⟨s, num, den, hden, hvalue, rfl⟩ := h
  refine ⟨s, nearest_congr hden unitsPerOne_pos ?_⟩
  have hden0 : (den : Rat) ≠ 0 := Nat.cast_ne_zero.mpr (Nat.ne_of_gt hden)
  have hcross : signed s num * unitsPerOne = n * den := by
    have h := (div_eq_div_iff hden0 unitsPerOne_ne_zero).mp hvalue
    exact_mod_cast h
  have habs := congrArg Int.natAbs hcross
  rwa [Int.natAbs_mul, Int.natAbs_mul, Int.natAbs_natCast, Int.natAbs_natCast,
    natAbs_signed] at habs

/-- What is rounded is a number, in range or not. -/
theorem Rounds.finite_or_infinite (h : Rounds v x) :
    x.isFinite = true ∨ ∃ s, x = ofCode s infinityCode := by
  obtain ⟨s, num, den, -, -, rfl⟩ := h
  unfold nearest
  rcases Nat.lt_or_ge (nearestCode num den) infinityCode with hlt | hge
  · rw [Nat.min_eq_left (Nat.le_of_lt hlt)]
    exact .inl (isFinite_ofCode hlt)
  · rw [Nat.min_eq_right hge]
    exact .inr ⟨s, rfl⟩

theorem Rounds.isFinite_iff (h : Rounds (n / unitsPerOne) x) :
    x.isFinite = true ↔ n.natAbs < tooLargeFrom * unitsPerOne := by
  obtain ⟨s, rfl⟩ := h.exists_units
  rw [← not_iff_not, Nat.not_lt, ← infinityCode_le_nearestCode_units]
  constructor
  · intro hinfinite
    by_contra hlt
    refine hinfinite ?_
    unfold nearest
    rw [Nat.min_eq_left (Nat.le_of_lt (Nat.not_le.mp hlt))]
    exact isFinite_ofCode (Nat.not_le.mp hlt)
  · exact fun hge hfinite => Nat.not_lt.mpr hge (nearestCode_lt hfinite)

/-! ## differences -/

theorem rational_sub_rational (x y : Float) :
    rational x - rational y = (units x - units y : Int) / unitsPerOne := by
  unfold rational
  rw [← sub_div, Int.cast_sub]

/-- **A difference is finite as long as the exact one is in range.** -/
theorem isFinite_sub_iff (hx : x.isFinite = true) (hy : y.isFinite = true) :
    (x - y).isFinite = true ↔ |rational x - rational y| < tooLargeFrom := by
  have hone : (0 : Rat) < unitsPerOne := Nat.cast_pos.mpr unitsPerOne_pos
  have hrounds := rounds_sub hx hy
  rw [rational_sub_rational] at hrounds ⊢
  rw [hrounds.isFinite_iff, abs_div, Nat.abs_cast, div_lt_iff₀ hone, ← Int.cast_abs,
    Int.abs_eq_natAbs, Int.cast_natCast, ← Nat.cast_mul, Nat.cast_lt]

theorem finite_or_infinite_sub (hx : x.isFinite = true) (hy : y.isFinite = true) :
    (x - y).isFinite = true ∨ ∃ s, x - y = ofCode s infinityCode :=
  (rounds_sub hx hy).finite_or_infinite

end

end AlgebraDesk.Double

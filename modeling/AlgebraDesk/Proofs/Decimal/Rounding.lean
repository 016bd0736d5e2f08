import AlgebraDesk.Decimal.Rounding
import Mathlib.Data.Nat.Dist

/-!
# How far a rounded quotient is from the quotient

Distances are compared without division, as distances between multiples of the divisor.  A rounded
quotient is at most half a step away, no other multiple is nearer, and half a step away it is even.

* `roundHalfEven_mono`        a greater number is not rounded to less;
* `dist_roundHalfEven`        at most half a step;
* `dist_roundHalfEven_le`     no multiple is nearer;
* `even_of_tie`               when another is as near, the result is even;
* `roundHalfEven_of_nearer`   what is no farther from a rounded value is rounded to it.
-/

namespace AlgebraDesk.Decimal

section
variable {num num' den k : Nat}

theorem roundHalfEven_ge (num den : Nat) : num / den ≤ roundHalfEven num den := by
  unfold roundHalfEven
  simp only
  split
  · exact Nat.le_refl _
  · split <;> omega

theorem roundHalfEven_le (num den : Nat) : roundHalfEven num den ≤ num / den + 1 := by
  unfold roundHalfEven
  simp only
  split
  · omega
  · split <;> omega

theorem roundHalfEven_le_of_lt (hden : 0 < den) (h : num < k * den) :
    roundHalfEven num den ≤ k := by
  have hq : num / den < k := (Nat.div_lt_iff_lt_mul hden).mpr h
  have hnext := roundHalfEven_le num den
  omega

theorem le_roundHalfEven_of_le (hden : 0 < den) (h : k * den ≤ num) :
    k ≤ roundHalfEven num den :=
  ((Nat.le_div_iff_mul_le hden).mpr h).trans (roundHalfEven_ge num den)

theorem roundHalfEven_scale (hk : 0 < k) :
    roundHalfEven (num * k) (den * k) = roundHalfEven num den := by
  have hdouble : 2 * (num % den * k) = 2 * (num % den) * k := (Nat.mul_assoc _ _ _).symm
  unfold roundHalfEven
  simp only [Nat.mul_div_mul_right _ _ hk, Nat.mul_mod_mul_right, hdouble, Nat.mul_lt_mul_right hk]

theorem roundHalfEven_mono (h : num ≤ num') :
    roundHalfEven num den ≤ roundHalfEven num' den := by
  rcases Nat.lt_or_eq_of_le (Nat.div_le_div_right (c := den) h) with hlt | heq
  · have hfloor := roundHalfEven_le num den
    have hceil := roundHalfEven_ge num' den
    omega
  · have hmod : num % den ≤ num' % den := by
      have hnum := Nat.div_add_mod num den
      have hnum' := Nat.div_add_mod num' den
      rw [heq] at hnum
      omega
    unfold roundHalfEven
    simp only [heq]
    split_ifs <;> omega

/-- Steps of the grid: another multiple is at least one step away. -/
theorem mul_add_le_of_lt {j k : Nat} (den : Nat) (h : j < k) : j * den + den ≤ k * den := by
  have hstep : (j + 1) * den ≤ k * den := Nat.mul_le_mul_right den h
  rwa [Nat.add_mul, Nat.one_mul] at hstep

/-- The result is at most half a step off. -/
theorem dist_roundHalfEven (num : Nat) (hden : 0 < den) :
    2 * Nat.dist (roundHalfEven num den * den) num ≤ den := by
  have h := roundHalfEven_near num hden
  unfold Nat.dist
  omega

/-- No multiple of the divisor is nearer. -/
theorem dist_roundHalfEven_le (num : Nat) (hden : 0 < den) (k : Nat) :
    Nat.dist (roundHalfEven num den * den) num ≤ Nat.dist (k * den) num := by
  have h := dist_roundHalfEven num hden
  unfold Nat.dist at *
  rcases Nat.lt_trichotomy k (roundHalfEven num den) with hk | rfl | hk
  · have hstep := mul_add_le_of_lt den hk
    omega
  · exact Nat.le_refl _
  · have hstep := mul_add_le_of_lt den hk
    omega

theorem roundHalfEven_of_dist_lt (h : 2 * Nat.dist (k * den) num < den) :
    roundHalfEven num den = k := by
  have hbest := dist_roundHalfEven_le num (Nat.zero_lt_of_lt h) k
  unfold Nat.dist at *
  rcases Nat.lt_trichotomy k (roundHalfEven num den) with hk | hk | hk
  · have hstep := mul_add_le_of_lt den hk
    omega
  · exact hk.symm
  · have hstep := mul_add_le_of_lt den hk
    omega

/-- Half a step off, the result is even. -/
theorem even_of_dist_eq (hden : 0 < den)
    (h : 2 * Nat.dist (roundHalfEven num den * den) num = den) :
    roundHalfEven num den % 2 = 0 := by
  have e : num / den * den + num % den = num := Nat.div_add_mod' num den
  have s : (num / den + 1) * den = num / den * den + den := by rw [Nat.add_mul, Nat.one_mul]
  have hr : num % den < den := Nat.mod_lt num hden
  unfold Nat.dist at h
  rcases Nat.lt_trichotomy (2 * (num % den)) den with hlt | heq | hgt
  · have hvalue : roundHalfEven num den = num / den := by simp [roundHalfEven, hlt]
    rw [hvalue] at h
    omega
  · have hvalue : roundHalfEven num den = num / den + num / den % 2 := by
      simp [roundHalfEven, heq]
    omega
  · have hvalue : roundHalfEven num den = num / den + 1 := by
      simp [roundHalfEven, hgt, Nat.not_lt.mpr (Nat.le_of_lt hgt)]
    rw [hvalue, s] at h
    omega

/-- Another multiple can be half a step off only when the result is, too. -/
theorem dist_of_half_step (hden : 0 < den) (hne : k ≠ roundHalfEven num den)
    (h : 2 * Nat.dist (k * den) num ≤ den) :
    2 * Nat.dist (roundHalfEven num den * den) num = den := by
  have hhalf := dist_roundHalfEven num hden
  unfold Nat.dist at *
  rcases Nat.lt_or_gt_of_ne hne with hk | hk
  · have hstep := mul_add_le_of_lt den hk
    omega
  · have hstep := mul_add_le_of_lt den hk
    omega

/-- When another multiple is as near, the result is even. -/
theorem even_of_tie (hden : 0 < den) (hne : k ≠ roundHalfEven num den)
    (h : Nat.dist (roundHalfEven num den * den) num = Nat.dist (k * den) num) :
    roundHalfEven num den % 2 = 0 :=
  even_of_dist_eq hden (dist_of_half_step hden hne (h ▸ dist_roundHalfEven num hden))

/-- An even multiple that is half a step off is the result. -/
theorem roundHalfEven_of_dist_eq (hden : 0 < den) (heven : k % 2 = 0)
    (h : 2 * Nat.dist (k * den) num = den) : roundHalfEven num den = k := by
  by_contra hne
  have htie := dist_of_half_step hden (Ne.symm hne) h.le
  have heven' := even_of_dist_eq hden htie
  -- two even multiples are two steps apart
  unfold Nat.dist at *
  rcases Nat.lt_or_gt_of_ne hne with hk | hk
  · have hstep := mul_add_le_of_lt den (show roundHalfEven num den + 1 < k by omega)
    rw [Nat.add_mul, Nat.one_mul] at hstep
    omega
  · have hstep := mul_add_le_of_lt den (show k + 1 < roundHalfEven num den by omega)
    rw [Nat.add_mul, Nat.one_mul] at hstep
    omega

/-- What is no farther from a rounded value is rounded to it. -/
theorem roundHalfEven_of_nearer (hden : 0 < den)
    (h : Nat.dist (roundHalfEven num den * den) num'
      ≤ Nat.dist (roundHalfEven num den * den) num) :
    roundHalfEven num' den = roundHalfEven num den := by
  have hhalf := dist_roundHalfEven num hden
  rcases Nat.lt_or_ge (2 * Nat.dist (roundHalfEven num den * den) num') den with hlt | hge
  · exact roundHalfEven_of_dist_lt hlt
  · exact roundHalfEven_of_dist_eq hden (even_of_dist_eq hden (by omega)) (by omega)

end
end AlgebraDesk.Decimal

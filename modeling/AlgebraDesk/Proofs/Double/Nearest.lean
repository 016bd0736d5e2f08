import AlgebraDesk.Double.Basic
import AlgebraDesk.Proofs.Decimal.Rounding
import Mathlib.Order.Monotone.Basic

/-!
# The nearest double

The magnitudes of the codes grow with the codes, and rounding a quotient gives a code whose
magnitude is nearest to it.  So a quotient that is a magnitude is not changed, and rounding keeps
the order between quotients and magnitudes.

* `units_strictMono`      the order of the codes;
* `nearestCode_nearest`   no double is nearer;
* `even_nearestCode`      when another is as near, the code is even;
* `nearestCode_of_units`, `nearestCode_le`, `le_nearestCode`   what follows for magnitudes;
* `nearestCode_congr`     equal quotients are rounded alike.
-/

namespace AlgebraDesk.Double

open Decimal (roundHalfEven twoTo twoTo_pos twoTo_succ)

theorem twoTo_52 : twoTo 52 = 4503599627370496 := by decide

theorem twoTo_53 : twoTo 53 = 9007199254740992 := by decide

theorem twoTo_add (m n : Nat) : twoTo (m + n) = twoTo m * twoTo n := Nat.pow_add 2 m n

namespace Magnitude

/-- The code of a mantissa that fills its binade, or of any mantissa in the lowest one. -/
theorem units_ofCode {scale mantissa : Nat} (hle : mantissa ≤ twoTo 53)
    (hfull : scale = 0 ∨ twoTo 52 ≤ mantissa) :
    (ofCode (scale * twoTo 52 + mantissa)).units = mantissa * twoTo scale := by
  unfold ofCode units
  rw [twoTo_52, twoTo_53] at *
  rcases Nat.lt_or_ge (scale * 4503599627370496 + mantissa) 9007199254740992 with hlow | hhigh
  · have hs : scale = 0 := by omega
    rw [if_pos hlow, hs]
    simp
  · rw [if_neg (Nat.not_lt.mpr hhigh)]
    rcases Nat.lt_or_ge mantissa 9007199254740992 with hlt | hge
    · have hdiv : (scale * 4503599627370496 + mantissa) / 4503599627370496 = scale + 1 := by omega
      have hmod : 4503599627370496 + (scale * 4503599627370496 + mantissa) % 4503599627370496
          = mantissa := by omega
      simp only [hdiv, hmod, Nat.add_sub_cancel]
    · -- the carry into the next binade
      obtain rfl : mantissa = 9007199254740992 := Nat.le_antisymm hle hge
      have hdiv : (scale * 4503599627370496 + 9007199254740992) / 4503599627370496 - 1
          = scale + 1 := by omega
      have hmod : 4503599627370496 + (scale * 4503599627370496 + 9007199254740992)
          % 4503599627370496 = 4503599627370496 := by omega
      simp only [hdiv, hmod, twoTo_succ]
      omega

theorem mantissa_lt (c : Nat) : (ofCode c).mantissa < twoTo 53 := by
  have hmod := Nat.mod_lt c (twoTo_pos 52)
  unfold ofCode
  split
  · assumption
  · rw [twoTo_53]
    rw [twoTo_52] at *
    show 4503599627370496 + c % 4503599627370496 < 9007199254740992
    omega

/-- Above the lowest binade the first bit of the mantissa is set. -/
theorem le_mantissa (c : Nat) : (ofCode c).scale = 0 ∨ twoTo 52 ≤ (ofCode c).mantissa := by
  unfold ofCode
  split
  · exact .inl rfl
  · exact .inr (Nat.le_add_right _ _)

theorem units_lt_units_succ (c : Nat) : (ofCode c).units < (ofCode (c + 1)).units := by
  have hcode : (ofCode c).scale * twoTo 52 + ((ofCode c).mantissa + 1) = c + 1 :=
    congrArg Nat.succ (code_ofCode c)
  have hsucc : (ofCode (c + 1)).units = ((ofCode c).mantissa + 1) * twoTo (ofCode c).scale := by
    rw [← hcode]
    exact units_ofCode (mantissa_lt c) ((le_mantissa c).imp_right Nat.le_succ_of_le)
  rw [hsucc, Nat.add_mul, Nat.one_mul]
  exact Nat.lt_add_of_pos_right (twoTo_pos _)

/-- **The order of the codes is the order of the magnitudes.** -/
theorem units_strictMono : StrictMono fun c => (ofCode c).units :=
  strictMono_nat_of_lt_succ units_lt_units_succ

theorem units_inj {c d : Nat} : (ofCode c).units = (ofCode d).units ↔ c = d :=
  units_strictMono.injective.eq_iff

theorem units_lt_units {c d : Nat} : (ofCode c).units < (ofCode d).units ↔ c < d :=
  units_strictMono.lt_iff_lt

theorem units_ofCode_zero : (ofCode 0).units = 0 := by
  have h : (ofCode (0 * twoTo 52 + 0)).units = 0 * twoTo 0 :=
    units_ofCode (Nat.zero_le (twoTo 53)) (.inl rfl)
  rwa [Nat.zero_mul, Nat.zero_mul] at h

end Magnitude

/-! ## rounding -/

section
variable {num den : Nat}

theorem twoTo_lt_twoTo {m n : Nat} (h : m < n) : twoTo m < twoTo n :=
  Nat.pow_lt_pow_right Nat.one_lt_two h

theorem log2_range {n : Nat} (h : n ≠ 0) : twoTo n.log2 ≤ n ∧ n < twoTo (n.log2 + 1) :=
  ⟨Nat.log2_self_le h, Nat.lt_log2_self⟩

theorem twoTo_le_twoTo {m n : Nat} (h : m ≤ n) : twoTo m ≤ twoTo n :=
  Nat.pow_le_pow_right Nat.two_pos h

/-- The binade of a quotient: the quotient lies below its end and, unless it is the lowest one, not
before its beginning. -/
theorem nearestCode_eq (num : Nat) (hden : 0 < den) :
    ∃ scale, nearestCode num den
        = scale * twoTo 52 + roundHalfEven (num * unitsPerOne) (den * twoTo scale) ∧
      num * unitsPerOne < twoTo 53 * (den * twoTo scale) ∧
      (scale = 0 ∨ twoTo 52 * (den * twoTo scale) ≤ num * unitsPerOne) := by
  refine ⟨_, rfl, ?_⟩
  generalize num * unitsPerOne = units
  have hmul : ∀ k s, k * (den * twoTo s) = k * twoTo s * den := by
    intro k s
    rw [Nat.mul_comm den, Nat.mul_assoc]
  rw [hmul, hmul, ← Nat.div_lt_iff_lt_mul hden, ← Nat.le_div_iff_mul_le hden, ← twoTo_add,
    ← twoTo_add]
  by_cases hz : units / den = 0
  · rw [if_pos hz, hz]
    exact ⟨twoTo_pos _, .inl rfl⟩
  · rw [if_neg hz]
    obtain ⟨hlow, hhigh⟩ := log2_range hz
    refine ⟨lt_of_lt_of_le hhigh (twoTo_le_twoTo (by omega)), ?_⟩
    by_cases hs : (units / den).log2 + 1 - 53 = 0
    · exact .inl hs
    · exact .inr ((twoTo_le_twoTo (by omega)).trans hlow)

/-- A magnitude is a multiple of the last place of a binade, or it lies below the binade. -/
theorem units_grid (scale c : Nat) :
    (∃ k, (Magnitude.ofCode c).units = k * twoTo scale) ∨
      (scale ≠ 0 ∧ (Magnitude.ofCode c).units < twoTo 52 * twoTo scale) := by
  rcases Nat.lt_or_ge (Magnitude.ofCode c).scale scale with hlow | hhigh
  · refine .inr ⟨Nat.ne_of_gt (Nat.zero_lt_of_lt hlow), ?_⟩
    calc (Magnitude.ofCode c).units
        < twoTo 53 * twoTo (Magnitude.ofCode c).scale :=
          Nat.mul_lt_mul_of_pos_right (Magnitude.mantissa_lt c) (twoTo_pos _)
      _ = twoTo (52 + ((Magnitude.ofCode c).scale + 1)) := by
          rw [← twoTo_add]
          congr 1
          omega
      _ ≤ twoTo (52 + scale) := twoTo_le_twoTo (by omega)
      _ = twoTo 52 * twoTo scale := twoTo_add 52 scale
  · refine .inl ⟨(Magnitude.ofCode c).mantissa * twoTo ((Magnitude.ofCode c).scale - scale), ?_⟩
    rw [Nat.mul_assoc, ← twoTo_add, Nat.sub_add_cancel hhigh]
    rfl

/-- The same against a quotient of the binade: the magnitude is a multiple of the step, or the
beginning of the binade lies between the two. -/
theorem units_step {scale : Nat} (hden : 0 < den)
    (hle : scale = 0 ∨ twoTo 52 * (den * twoTo scale) ≤ num * unitsPerOne) (c : Nat) :
    (∃ k, (Magnitude.ofCode c).units * den = k * (den * twoTo scale)) ∨
      ((Magnitude.ofCode c).units * den < twoTo 52 * (den * twoTo scale) ∧
        twoTo 52 * (den * twoTo scale) ≤ num * unitsPerOne) := by
  have hmul : ∀ k, k * twoTo scale * den = k * (den * twoTo scale) := by
    intro k
    rw [Nat.mul_comm den, Nat.mul_assoc]
  rcases units_grid scale c with ⟨k, hk⟩ | ⟨hscale, hbelow⟩
  · exact .inl ⟨k, by rw [hk, hmul]⟩
  · refine .inr ⟨?_, hle.resolve_left hscale⟩
    rw [← hmul]
    exact Nat.mul_lt_mul_of_pos_right hbelow hden

/-- What a quotient is rounded to, in steps of its binade. -/
theorem nearestCode_steps (num : Nat) (hden : 0 < den) :
    ∃ scale, nearestCode num den
        = scale * twoTo 52 + roundHalfEven (num * unitsPerOne) (den * twoTo scale) ∧
      (Magnitude.ofCode (nearestCode num den)).units * den
        = roundHalfEven (num * unitsPerOne) (den * twoTo scale) * (den * twoTo scale) ∧
      (scale = 0 ∨ twoTo 52 * (den * twoTo scale) ≤ num * unitsPerOne) := by
  obtain ⟨scale, hcode, hlt, hle⟩ := nearestCode_eq num hden
  have hstep : 0 < den * twoTo scale := Nat.mul_pos hden (twoTo_pos scale)
  refine ⟨scale, hcode, ?_, hle⟩
  rw [hcode, Magnitude.units_ofCode (Decimal.roundHalfEven_le_of_lt hstep hlt)
    (hle.imp_right (Decimal.le_roundHalfEven_of_le hstep)), Nat.mul_comm den, Nat.mul_assoc]

/-- **No double is nearer** to a quotient than the one it is rounded to. -/
theorem nearestCode_nearest (num : Nat) (hden : 0 < den) (c : Nat) :
    Nat.dist ((Magnitude.ofCode (nearestCode num den)).units * den) (num * unitsPerOne)
      ≤ Nat.dist ((Magnitude.ofCode c).units * den) (num * unitsPerOne) := by
  obtain ⟨scale, -, hunits, hle⟩ := nearestCode_steps num hden
  have hstep : 0 < den * twoTo scale := Nat.mul_pos hden (twoTo_pos scale)
  rw [hunits]
  rcases units_step hden hle c with ⟨k, hk⟩ | ⟨hbelow, hbegin⟩
  · rw [hk]
    exact Decimal.dist_roundHalfEven_le _ hstep _
  · have hbest := Decimal.dist_roundHalfEven_le (num * unitsPerOne) hstep (twoTo 52)
    unfold Nat.dist at *
    omega

/-- **When another double is as near, the code is even.** -/
theorem even_nearestCode (hden : 0 < den) {c : Nat} (hne : c ≠ nearestCode num den)
    (h : Nat.dist ((Magnitude.ofCode (nearestCode num den)).units * den) (num * unitsPerOne)
      = Nat.dist ((Magnitude.ofCode c).units * den) (num * unitsPerOne)) :
    nearestCode num den % 2 = 0 := by
  obtain ⟨scale, hcode, hunits, hle⟩ := nearestCode_steps num hden
  have hstep : 0 < den * twoTo scale := Nat.mul_pos hden (twoTo_pos scale)
  have hfar : (Magnitude.ofCode c).units * den
      ≠ (Magnitude.ofCode (nearestCode num den)).units * den := fun e =>
    hne (Magnitude.units_inj.mp (Nat.eq_of_mul_eq_mul_right hden e))
  rw [hunits] at h hfar
  have heven : roundHalfEven (num * unitsPerOne) (den * twoTo scale) % 2 = 0 := by
    rcases units_step hden hle c with ⟨k, hk⟩ | ⟨hbelow, hbegin⟩
    · rw [hk] at h hfar
      exact Decimal.even_of_tie hstep (fun e => hfar (by rw [e])) h
    · -- the beginning of the binade would be nearer than either
      have hbest := Decimal.dist_roundHalfEven_le (num * unitsPerOne) hstep (twoTo 52)
      unfold Nat.dist at *
      omega
  rw [hcode, twoTo_52]
  omega

/-- A quotient that is a magnitude is not changed. -/
theorem nearestCode_of_units {c : Nat} (hden : 0 < den)
    (h : (Magnitude.ofCode c).units * den = num * unitsPerOne) : nearestCode num den = c := by
  have hbest := nearestCode_nearest num hden c
  rw [← h, Nat.dist_self, Nat.le_zero] at hbest
  exact Magnitude.units_inj.mp (Nat.eq_of_mul_eq_mul_right hden (Nat.eq_of_dist_eq_zero hbest))

/-- A magnitude that is not passed by the quotient is not passed by the result. -/
theorem nearestCode_le {c : Nat} (hden : 0 < den)
    (h : num * unitsPerOne ≤ (Magnitude.ofCode c).units * den) : nearestCode num den ≤ c := by
  by_contra hc
  have hlt := Nat.mul_lt_mul_of_pos_right (Magnitude.units_lt_units.mpr (Nat.not_le.mp hc)) hden
  have hbest := nearestCode_nearest num hden c
  unfold Nat.dist at hbest
  omega

theorem le_nearestCode {c : Nat} (hden : 0 < den)
    (h : (Magnitude.ofCode c).units * den ≤ num * unitsPerOne) : c ≤ nearestCode num den := by
  by_contra hc
  have hlt := Nat.mul_lt_mul_of_pos_right (Magnitude.units_lt_units.mpr (Nat.not_le.mp hc)) hden
  have hbest := nearestCode_nearest num hden c
  unfold Nat.dist at hbest
  omega

/-- **Rounding keeps the order.**  Two quotients that were rounded the other way round would both
lie half-way between the results, and so be the same. -/
theorem nearestCode_mono {num' : Nat} (hden : 0 < den) (h : num ≤ num') :
    nearestCode num den ≤ nearestCode num' den := by
  by_contra hc
  have hlt := Nat.mul_lt_mul_of_pos_right (Magnitude.units_lt_units.mpr (Nat.not_le.mp hc)) hden
  have hunits : num * unitsPerOne ≤ num' * unitsPerOne := Nat.mul_le_mul_right _ h
  have hbest := nearestCode_nearest num hden (nearestCode num' den)
  have hbest' := nearestCode_nearest num' hden (nearestCode num den)
  have hsame : num * unitsPerOne = num' * unitsPerOne := by
    unfold Nat.dist at hbest hbest'
    omega
  rw [Nat.eq_of_mul_eq_mul_right unitsPerOne_pos hsame] at hc
  exact hc (Nat.le_refl _)

/-- A code is reached from a limit on, when it is reached there and not just below. -/
theorem le_nearestCode_iff {c limit : Nat} (hden : 0 < den) (hlimit : nearestCode limit den = c)
    (hbelow : nearestCode (limit - 1) den < c) (k : Nat) :
    c ≤ nearestCode k den ↔ limit ≤ k := by
  constructor
  · intro h
    by_contra hk
    have hle := nearestCode_mono hden (Nat.le_sub_one_of_lt (Nat.not_le.mp hk))
    omega
  · intro h
    rw [← hlimit]
    exact nearestCode_mono hden h

theorem nearestCode_scale {k : Nat} (hk : 0 < k) (num den : Nat) :
    nearestCode (num * k) (den * k) = nearestCode num den := by
  have hnum : num * k * unitsPerOne = num * unitsPerOne * k := Nat.mul_right_comm _ _ _
  have hden : ∀ s, den * k * twoTo s = den * twoTo s * k := fun s => Nat.mul_right_comm _ _ _
  unfold nearestCode
  simp only [hnum, hden, Nat.mul_div_mul_right _ _ hk, Decimal.roundHalfEven_scale hk]

/-- Equal quotients are rounded alike. -/
theorem nearestCode_congr {num' den' : Nat} (hden : 0 < den) (hden' : 0 < den')
    (h : num * den' = num' * den) : nearestCode num den = nearestCode num' den' := by
  rw [← nearestCode_scale hden' num den, ← nearestCode_scale hden num' den', h, Nat.mul_comm den]

theorem nearestCode_zero (hden : 0 < den) : nearestCode 0 den = 0 := by
  refine nearestCode_of_units hden ?_
  rw [Magnitude.units_ofCode_zero, Nat.zero_mul, Nat.zero_mul]

end
end AlgebraDesk.Double

import AlgebraDesk.Proofs.Double.Monotone
import AlgebraDesk.Proofs.Quadratic.Integers
import Mathlib.Tactic.Linarith

/-!
# Two roots are two numbers

When the discriminant of small integer coefficients is positive its root is at least one, so the two
numerators are at least two apart.  Their quotients are then so far apart that two doubles lie
between them, and rounding cannot make them equal.

* `sqrt_bounds`     the root of a positive integer;
* `exists_between`  two doubles between the quotients;
* `roots_distinct`  the roots, the lesser first.
-/

namespace AlgebraDesk.Quadratic

open Decimal (twoTo twoTo_pos)
open Double (IsSmall Rounds integer nearest rational signed)

/-! ## the root of the discriminant -/

theorem rounds_sqrt {n : Nat} (hn : n ≠ 0) (hsmall : n < twoTo 53) :
    ∃ v : Rat, 1 ≤ v ∧ v ≤ n + 1 ∧ Rounds v (nearest false n 1).sqrt := by
  obtain ⟨t, hroot⟩ := Double.sqrt_small hn hsmall
  have hq := Double.quarters_lt (Double.accuracyOfRoot (n * twoTo (2 * t)))
  generalize Double.quarters _ = q at hroot hq
  have hdouble : twoTo (2 * t) = twoTo t * twoTo t := by rw [Nat.two_mul, Double.twoTo_add]
  have hlow : twoTo t ≤ (n * twoTo (2 * t)).sqrt := by
    rw [Nat.le_sqrt, hdouble]
    exact Nat.le_mul_of_pos_left _ (Nat.pos_of_ne_zero hn)
  have hhigh : (n * twoTo (2 * t)).sqrt ≤ n * twoTo t := by
    rw [← Nat.sqrt_eq (n * twoTo t), hdouble]
    refine Nat.sqrt_le_sqrt ?_
    calc n * (twoTo t * twoTo t) ≤ n * n * (twoTo t * twoTo t) :=
          Nat.mul_le_mul_right _ (Nat.le_mul_self n)
      _ = n * twoTo t * (n * twoTo t) := by ring
  generalize (n * twoTo (2 * t)).sqrt = r at hroot hlow hhigh
  have hpos := twoTo_pos t
  have hden : (0 : Rat) < (4 * twoTo t : Nat) := Nat.cast_pos.mpr (Nat.mul_pos (by decide) hpos)
  refine ⟨((4 * r + q : Nat) : Rat) / (4 * twoTo t : Nat), ?_, ?_,
    false, 4 * r + q, 4 * twoTo t, Nat.mul_pos (by decide) hpos, rfl, hroot⟩
  · rw [le_div_iff₀ hden, one_mul, Nat.cast_le]
    omega
  · rw [div_le_iff₀ hden]
    have hle : 4 * r + q ≤ (n + 1) * (4 * twoTo t) := by
      rw [Nat.add_mul, Nat.mul_left_comm]
      omega
    exact_mod_cast hle

/-- The root of a positive integer is not less than one. -/
theorem sqrt_bounds {d : Int} (hd : 0 < d) (hsmall : IsSmall (d + 1)) :
    (integer d).sqrt.isFinite = true ∧ 1 ≤ rational (integer d).sqrt ∧
      rational (integer d).sqrt ≤ d + 1 := by
  obtain ⟨n, rfl⟩ := Int.eq_ofNat_of_zero_le (Int.le_of_lt hd)
  have hsmall' : n + 1 ≤ twoTo 53 := by
    unfold IsSmall at hsmall
    omega
  obtain ⟨v, hlow, hhigh, hrounds⟩ := rounds_sqrt (n := n) (by omega) (by omega)
  have hroot : nearest false n 1 = integer n := by
    unfold integer
    rw [decide_eq_false (Int.not_lt.mpr (Int.natCast_nonneg n))]
    rfl
  rw [hroot] at hrounds
  have hfinite : (integer n).sqrt.isFinite = true := by
    refine hrounds.isFinite hsmall' ?_
    rw [abs_of_nonneg (by linarith)]
    push_cast
    exact hhigh
  have hone : IsSmall 1 := by decide
  have hleast :=
    (Double.rounds_integer 1).rational_le hrounds (Double.isFinite_integer hone) hfinite
    (by exact_mod_cast hlow)
  have hgreatest := hrounds.rational_le (Double.rounds_integer (n + 1)) hfinite
    (Double.isFinite_integer hsmall) (by exact_mod_cast hhigh)
  rw [Double.rational_integer hone] at hleast
  rw [Double.rational_integer hsmall] at hgreatest
  exact ⟨hfinite, by exact_mod_cast hleast, by exact_mod_cast hgreatest⟩

/-! ## two doubles in between -/

/-- Two multiples of a power of two lie between quotients that are this far apart. -/
theorem exists_between {A : Int} {m : Int} (hA : 0 < A) (hA' : A ≤ 2 ^ 25)
    (hm : m.natAbs ≤ 2 ^ 25) :
    ∃ u v : Float, u.isFinite = true ∧ v.isFinite = true ∧
      ((m : Rat) - 1) / (2 * A) ≤ rational u ∧ rational u < rational v ∧
      rational v ≤ ((m : Rat) + 1) / (2 * A) := by
  -- the least multiple of 2 ^ -27 that is not below the lesser quotient
  generalize hceiling : -(-((m - 1) * 2 ^ 26) / A) = k
  have hge : (m - 1) * 2 ^ 26 ≤ k * A := by
    have h := Int.ediv_mul_le (-((m - 1) * 2 ^ 26)) (Int.ne_of_gt hA)
    rw [← hceiling, Int.neg_mul]
    omega
  have hlt : k * A < (m - 1) * 2 ^ 26 + A := by
    have h := Int.lt_ediv_add_one_mul_self (-((m - 1) * 2 ^ 26)) hA
    rw [Int.add_mul, Int.one_mul] at h
    rw [← hceiling, Int.neg_mul]
    omega
  have hsmall : k.natAbs + 1 ≤ twoTo 53 := by
    have habs : k.natAbs ≤ (k * A).natAbs := by
      rw [Int.natAbs_mul]
      exact Nat.le_mul_of_pos_right _ (by omega)
    have hlimit : twoTo 53 = 2 ^ 53 := rfl
    omega
  have hk : IsSmall k := by
    unfold IsSmall
    omega
  have hk' : IsSmall (k + 1) := by
    unfold IsSmall
    omega
  obtain ⟨u, hu, hu'⟩ := @Double.exists_dyadic k 27 hk (by decide)
  obtain ⟨v, hv, hv'⟩ := @Double.exists_dyadic (k + 1) 27 hk' (by decide)
  have hden : (0 : Rat) < 2 * A := by exact_mod_cast (by omega : (0 : Int) < 2 * A)
  have hleft : (m - 1) * 2 ^ 27 ≤ k * (2 * A) := by
    rw [Int.mul_left_comm]
    omega
  have hright : (k + 1) * (2 * A) ≤ (m + 1) * 2 ^ 27 := by
    rw [Int.add_mul, Int.mul_left_comm]
    omega
  refine ⟨u, v, hu, hv, ?_, ?_, ?_⟩
  · rw [hu', div_le_div_iff₀ hden (by norm_num)]
    exact_mod_cast hleft
  · rw [hu', hv', Int.cast_add, Int.cast_one]
    exact div_lt_div_of_pos_right (by linarith) (by norm_num)
  · rw [hv', div_le_div_iff₀ (by norm_num) hden]
    exact_mod_cast hright

/-! ## the roots -/

/-- What is rounded from beyond two different doubles is different. -/
theorem rational_lt_of_between {v w : Rat} {x y u u' : Float} (hx : Rounds v x) (hy : Rounds w y)
    (hx' : x.isFinite = true) (hy' : y.isFinite = true) (hu : u.isFinite = true)
    (hu' : u'.isFinite = true) (hlow : v ≤ rational u) (hlt : rational u < rational u')
    (hhigh : rational u' ≤ w) : rational x < rational y := by
  have hleft := hx.rational_le (Double.rounds_self hu) hx' hu hlow
  have hright := (Double.rounds_self hu').rational_le hy hu' hy' hhigh
  linarith

theorem ascending_of_lt {x y : Float} (hx : x.isFinite = true) (hy : y.isFinite = true)
    (h : rational x < rational y) : x < y ∧ ascending x y = [x, y] ∧ ascending y x = [x, y] := by
  have hlt := Double.lt_of_rational_lt hx hy h
  unfold ascending
  rw [if_pos hlt, if_neg (Double.not_lt_of_lt hlt)]
  exact ⟨hlt, rfl, rfl⟩

theorem cast_abs_le {m : Int} {k : Nat} (h : m.natAbs ≤ k) : |(m : Rat)| ≤ k := by
  rw [← Int.cast_abs, Int.abs_eq_natAbs]
  exact_mod_cast h

/-- The two numerators are at least two apart, with the middle between them. -/
theorem numerators_apart {b : Int} {s : Float} (hb : b.natAbs ≤ 2 ^ 25) (hs : s.isFinite = true)
    (hone : 1 ≤ rational s) (hle : rational s ≤ 2 ^ 53 - 2 ^ 25) :
    (|rational (-integer b - s)| ≤ twoTo 53 ∧ |rational (-integer b + s)| ≤ twoTo 53) ∧
      ((-integer b - s).isFinite = true ∧ (-integer b + s).isFinite = true) ∧
      rational (-integer b - s) ≤ -b - 1 ∧ -b + 1 ≤ rational (-integer b + s) := by
  have hsmall : IsSmall b := Nat.le_trans hb (by decide)
  have hb' : (-integer b).isFinite = true := by
    rw [Double.isFinite_opposite, Double.isFinite_integer hsmall]
  have hvalue : rational (-integer b) = -b := by
    rw [Double.rational_opposite (Double.isFinite_integer hsmall), Double.rational_integer hsmall]
  have hminus := Double.rounds_sub hb' hs
  have hplus := Double.rounds_add hb' hs
  rw [hvalue] at hminus hplus
  obtain ⟨hlow, hhigh⟩ := abs_le.mp (cast_abs_le hb)
  norm_num at hlow hhigh hle
  have hless : |-(b : Rat) - rational s| ≤ (twoTo 53 : Nat) := by
    rw [Double.cast_twoTo, abs_le]
    constructor <;> norm_num <;> linarith
  have hmore : |-(b : Rat) + rational s| ≤ (twoTo 53 : Nat) := by
    rw [Double.cast_twoTo, abs_le]
    constructor <;> norm_num <;> linarith
  have hminus' := hminus.isFinite (Nat.le_refl _) hless
  have hplus' := hplus.isFinite (Nat.le_refl _) hmore
  have hl : IsSmall (-b - 1) := Nat.le_trans (by omega : _ ≤ 2 ^ 25 + 1) (by decide)
  have hr : IsSmall (-b + 1) := Nat.le_trans (by omega : _ ≤ 2 ^ 25 + 1) (by decide)
  have hleast := hminus.rational_le (Double.rounds_integer (-b - 1)) hminus'
    (Double.isFinite_integer hl) (by push_cast; linarith)
  have hgreatest := (Double.rounds_integer (-b + 1)).rational_le hplus (Double.isFinite_integer hr)
    hplus' (by push_cast; linarith)
  rw [Double.rational_integer hl] at hleast
  rw [Double.rational_integer hr] at hgreatest
  exact
    ⟨⟨hminus.abs_rational_le (Nat.le_refl _) hless, hplus.abs_rational_le (Nat.le_refl _) hmore⟩,
      ⟨hminus', hplus'⟩, by exact_mod_cast hleast, by exact_mod_cast hgreatest⟩

/-- A numerator over the denominator, which is not less than one. -/
theorem quotient_rounds {a : Int} {x : Float} (ha : a ≠ 0) (ha' : IsSmall (2 * a))
    (hx : x.isFinite = true) (hx' : |rational x| ≤ twoTo 53) :
    Rounds (rational x / (2 * a)) (x / (2 * integer a)) ∧
      (x / (2 * integer a)).isFinite = true := by
  have hsmall : IsSmall a := by
    unfold IsSmall at ha' ⊢
    omega
  have hden : 2 * integer a = integer (2 * a) := by
    rw [two_eq_integer, integer_mul_of_pos (by decide) hsmall (by decide)]
  have hvalue : rational (integer (2 * a)) = 2 * a := by
    rw [Double.rational_integer ha', Int.cast_mul, Int.cast_ofNat]
  have hne : (2 * a : Rat) ≠ 0 := by exact_mod_cast (by omega : 2 * a ≠ 0)
  have hrounds := Double.rounds_div hx (Double.isFinite_integer ha') (by rwa [hvalue])
  rw [hvalue] at hrounds
  rw [hden]
  refine ⟨hrounds, hrounds.isFinite (Nat.le_refl _) ?_⟩
  have hone : (1 : Rat) ≤ ((|2 * a| : Int) : Rat) := by
    exact_mod_cast Int.one_le_abs (by omega : 2 * a ≠ 0)
  rw [Int.cast_abs, Int.cast_mul, Int.cast_ofNat] at hone
  rw [abs_div]
  exact (div_le_self (abs_nonneg _) hone).trans hx'

/-- **A positive discriminant gives two different roots**, the lesser first. -/
theorem roots_distinct {a b d : Int} (ha : a ≠ 0) (ha' : a.natAbs ≤ 2 ^ 25)
    (hb : b.natAbs ≤ 2 ^ 25) (hd : 0 < d) (hd' : d + 1 + 2 ^ 25 ≤ 2 ^ 53) :
    ∃ x y, roots (integer a) (integer b) (integer d) = [x, y] ∧ x < y := by
  have hlimit : twoTo 53 = 2 ^ 53 := rfl
  have hsmall : ∀ m : Int, m.natAbs ≤ 2 ^ 53 → IsSmall m := fun m hm => hm
  obtain ⟨hs, hone, hle⟩ := sqrt_bounds hd (hsmall _ (by omega))
  have hle' : rational (integer d).sqrt ≤ 2 ^ 53 - 2 ^ 25 := by
    have hcast : (d : Rat) + 1 ≤ 2 ^ 53 - 2 ^ 25 := by
      exact_mod_cast (by omega : d + 1 ≤ 2 ^ 53 - 2 ^ 25)
    exact hle.trans hcast
  obtain ⟨⟨hminus, hplus⟩, ⟨hminus', hplus'⟩, hless, hmore⟩ := numerators_apart hb hs hone hle'
  obtain ⟨hx, hx'⟩ := quotient_rounds ha (hsmall _ (by omega)) hminus' hminus
  obtain ⟨hy, hy'⟩ := quotient_rounds ha (hsmall _ (by omega)) hplus' hplus
  unfold roots
  rw [if_pos ((Double.integer_pos_iff (hsmall _ (by omega))).mpr hd)]
  generalize (-integer b - (integer d).sqrt) / (2 * integer a) = x at hx hx' ⊢
  generalize (-integer b + (integer d).sqrt) / (2 * integer a) = y at hy hy' ⊢
  have hordered : rational x < rational y ∨ rational y < rational x := by
    rcases Int.lt_or_gt_of_ne ha with hneg | hpos
    · obtain ⟨u, v, hu, hv, hlow, hlt, hhigh⟩ :=
        @exists_between (-a) b (by omega) (by omega) hb
      have hden : (0 : Rat) ≤ 2 * (-a : Int) := by exact_mod_cast (by omega : 0 ≤ 2 * -a)
      have hflip : ∀ r : Rat, r / (2 * a) = -r / (2 * (-a : Int)) := by
        intro r
        rw [Int.cast_neg, mul_neg, neg_div_neg_eq]
      rw [hflip] at hx hy
      refine .inr (rational_lt_of_between hy hx hy' hx' hu hv ?_ hlt ?_)
      · exact (div_le_div_of_nonneg_right (by linarith) hden).trans hlow
      · exact hhigh.trans (div_le_div_of_nonneg_right (by linarith) hden)
    · obtain ⟨u, v, hu, hv, hlow, hlt, hhigh⟩ :=
        @exists_between a (-b) hpos (by omega) (by omega)
      have hden : (0 : Rat) ≤ 2 * a := by exact_mod_cast (by omega : 0 ≤ 2 * a)
      rw [Int.cast_neg] at hlow hhigh
      refine .inl (rational_lt_of_between hx hy hx' hy' hu hv ?_ hlt ?_)
      · exact (div_le_div_of_nonneg_right hless hden).trans hlow
      · exact hhigh.trans (div_le_div_of_nonneg_right hmore hden)
  rcases hordered with h | h
  · rw [← rational_clean hx', ← rational_clean hy'] at h
    obtain ⟨hlt, hlist, _⟩ := ascending_of_lt (isFinite_clean hx') (isFinite_clean hy') h
    exact ⟨_, _, hlist, hlt⟩
  · rw [← rational_clean hx', ← rational_clean hy'] at h
    obtain ⟨hlt, _, hlist⟩ := ascending_of_lt (isFinite_clean hy') (isFinite_clean hx') h
    exact ⟨_, _, hlist, hlt⟩

end AlgebraDesk.Quadratic

import AlgebraDesk.Proofs.Double.Exact

/-!
# Square roots

A root is taken of the mantissa, lengthened by an even number of bits, as a natural number with a
remainder.  The remainder tells in which quarter the fraction is, so the outcome is the double
nearest to a number of quarters.  The root of a perfect square is exact.

* `quarters`, `extended_quarters`   a remainder as a number of quarters;
* `exists_sqrtCore`   the mantissa of a root, with `accuracyOfRoot` of its remainder;
* `sqrt_small`        the root of a small number;
* `sqrt_square`       the root of the square of an integer.
-/

namespace AlgebraDesk.Double

open Decimal (twoTo twoTo_pos)
open Float.Model (UnpackedFloat Format totalExponent)
open Float.Model.UnpackedFloat

/-! ## the mantissa of a root -/

/-- The first quarter that has what is left of a mantissa. -/
def quarters : Accuracy → Nat
  | .exact => 0
  | .inexact .lt => 1
  | .inexact .eq => 2
  | .inexact .gt => 3

theorem quarters_lt (acc : Accuracy) : quarters acc < 4 := by
  rcases acc with _ | _ | _ | _ <;> decide

theorem extended_quarters (m : Nat) (acc : Accuracy) :
    ExtendedMantissa.ofMantissaAndAccuracy m acc = extended (4 * m + quarters acc) 4 := by
  have hdiv : ∀ q < 4, (4 * m + q) / 4 = m := fun q hq => by omega
  have hmod : ∀ q < 4, (4 * m + q) % 4 = q := fun q hq => by omega
  unfold extended
  rw [hdiv _ (quarters_lt acc), hmod _ (quarters_lt acc)]
  rcases acc with _ | _ | _ | _ <;> rfl

/-- A root has half as many bits. -/
theorem log2_sqrt {n : Nat} (hn : n ≠ 0) : n.sqrt.log2 = n.log2 / 2 := by
  obtain ⟨hle, hlt⟩ := log2_range hn
  have hroot : n.sqrt ≠ 0 := Nat.ne_of_gt (Nat.sqrt_pos.mpr (Nat.pos_of_ne_zero hn))
  have hlow : n.log2 / 2 ≤ n.sqrt.log2 := by
    refine (Nat.le_log2 hroot).mpr (Nat.le_sqrt.mpr ?_)
    calc twoTo (n.log2 / 2) * twoTo (n.log2 / 2) = twoTo (n.log2 / 2 + n.log2 / 2) :=
          (twoTo_add _ _).symm
      _ ≤ twoTo n.log2 := twoTo_le_twoTo (by omega)
      _ ≤ n := hle
  have hhigh : n.sqrt.log2 < n.log2 / 2 + 1 := by
    refine (Nat.log2_lt hroot).mpr (Nat.sqrt_lt.mpr ?_)
    calc n < twoTo (n.log2 + 1) := hlt
      _ ≤ twoTo (n.log2 / 2 + 1 + (n.log2 / 2 + 1)) := twoTo_le_twoTo (by omega)
      _ = twoTo (n.log2 / 2 + 1) * twoTo (n.log2 / 2 + 1) := twoTo_add _ _
  omega

/-- What the remainder of a root tells. -/
def accuracyOfRoot (n : Nat) : Accuracy :=
  if n - n.sqrt * n.sqrt = 0 then .exact
  else .inexact (if n - n.sqrt * n.sqrt ≤ n.sqrt then .lt else .gt)

theorem accuracyOfRoot_square (r : Nat) : accuracyOfRoot (r * r) = .exact := by
  unfold accuracyOfRoot
  rw [Nat.sqrt_eq, Nat.sub_self, if_pos rfl]

/-- The root is taken of a number that is lengthened by an even number of bits. -/
theorem exists_sqrtCore {n : Nat} (hn : n ≠ 0) (d : Nat) : ∃ t : Nat,
    sqrtCore Format.binary64 (n * twoTo d) (-d)
        = ((n * twoTo (2 * t)).sqrt, -(t : Int), accuracyOfRoot (n * twoTo (2 * t))) ∧
      -(t : Int) ≤
        Format.binary64.targetExponent (totalExponent (n * twoTo (2 * t)).sqrt (-t)) := by
  have hpos : 0 < n := Nat.pos_of_ne_zero hn
  have hhalf : (totalExponent (n * twoTo d) (-d) + 1).ediv 2 = (n.log2 / 2 : Nat) + 1 := by
    unfold totalExponent
    rw [log2_scaled hpos]
    show ((n.log2 + d : Nat) + 1 + -(d : Int) + 1) / 2 = _
    omega
  have hroot : ∀ t : Nat, totalExponent (n * twoTo (2 * t)).sqrt (-t) = (n.log2 / 2 : Nat) + 1 := by
    intro t
    unfold totalExponent
    rw [log2_sqrt (Nat.ne_of_gt (Nat.mul_pos hpos (twoTo_pos _))), log2_scaled hpos]
    omega
  generalize htarget : min ((-(d : Int)).ediv 2)
    (Format.binary64.targetExponent ((n.log2 / 2 : Nat) + 1)) = target
  have hhalves : (-(d : Int)).ediv 2 = -(d : Int) / 2 := rfl
  rw [hhalves] at htarget
  generalize ht : (-target).toNat = t
  have hneg : target = -(t : Int) := by omega
  have hshift : (-(d : Int) - 2 * -(t : Int)).toNat = 2 * t - d := by omega
  have hlength : n * twoTo d * 2 ^ (2 * t - d) = n * twoTo (2 * t) := by
    calc n * twoTo d * twoTo (2 * t - d) = n * twoTo (d + (2 * t - d)) := by
          rw [twoTo_add, Nat.mul_assoc]
      _ = n * twoTo (2 * t) := congrArg (n * twoTo ·) (by omega)
  refine ⟨t, ?_, ?_⟩
  · unfold sqrtCore
    simp only [hhalf, hhalves, htarget, hneg, hshift, Nat.shiftLeft_eq, hlength]
    rfl
  · rw [hroot]
    omega

/-- A small number is its mantissa, shifted to the left within the fraction. -/
theorem mantissa_of_units {c k : Nat} (hu : (Magnitude.ofCode c).units = k * unitsPerOne)
    (hk : k < twoTo 53) : (Magnitude.ofCode c).scale ≤ unitExponent ∧
      (Magnitude.ofCode c).mantissa = k * twoTo (unitExponent - (Magnitude.ofCode c).scale) := by
  unfold Magnitude.units at hu
  have hfull := Magnitude.le_mantissa c
  generalize (Magnitude.ofCode c).mantissa = m at *
  generalize (Magnitude.ofCode c).scale = scale at *
  have hscale : scale ≤ unitExponent := by
    by_contra hlarge
    have hm52 : twoTo 52 ≤ m := hfull.resolve_left (by omega)
    have hle : twoTo 53 * unitsPerOne ≤ m * twoTo scale := by
      calc twoTo 53 * unitsPerOne = twoTo 52 * twoTo (1 + unitExponent) := by
            rw [unitsPerOne_eq, ← twoTo_add, ← twoTo_add, ← Nat.add_assoc]
        _ ≤ m * twoTo scale := Nat.mul_le_mul hm52 (twoTo_le_twoTo (by omega))
    rw [hu] at hle
    exact Nat.not_lt.mpr (Nat.le_of_mul_le_mul_right hle unitsPerOne_pos) hk
  refine ⟨hscale, Nat.eq_of_mul_eq_mul_right (twoTo_pos scale) ?_⟩
  rw [hu, Nat.mul_assoc k, ← twoTo_add, Nat.sub_add_cancel hscale, unitsPerOne_eq]

/-- **The root of a small number is rounded once**, as a number of quarters. -/
theorem sqrt_small {n : Nat} (hn : n ≠ 0) (hsmall : n < twoTo 53) : ∃ t : Nat,
    (nearest false n 1).sqrt = nearest false
      (4 * (n * twoTo (2 * t)).sqrt + quarters (accuracyOfRoot (n * twoTo (2 * t))))
      (4 * twoTo t) := by
  obtain ⟨c, hc, hnearest, hu⟩ := nearest_small (Nat.le_of_lt hsmall)
  obtain ⟨hscale, hmantissa⟩ := mantissa_of_units hu hsmall
  obtain ⟨hm, hparts⟩ := parts_of_pos false (code_ne_zero hu hn)
  rw [hnearest]
  show ∃ t : Nat, (⟨.pack (UnpackedFloat.sqrt Format.binary64
    (ofCode false c).toModel.unpack)⟩ : Float) = _
  rw [unpack_ofCode hc, hparts]
  generalize (Magnitude.ofCode c).mantissa = m at *
  generalize (Magnitude.ofCode c).scale = scale at *
  have hexponent : (scale : Int) - unitExponent = -((unitExponent - scale : Nat) : Int) := by omega
  obtain ⟨t, hcore, hplace⟩ := exists_sqrtCore hn (unitExponent - scale)
  subst hmantissa
  refine ⟨t, ?_⟩
  rw [hexponent]
  show (⟨.pack (let (m, e, acc) := sqrtCore Format.binary64 _ _
    roundWithAccuracy Format.binary64 .positive m e acc)⟩ : Float) = _
  rw [hcore]
  refine pack_round false (by decide) (Nat.mul_pos (by decide) (twoTo_pos t))
    (extended_quarters _ _)
    (i := t) (j := unitExponent) (by omega) ?_ hplace
  rw [unitsPerOne_eq]

/-! ## perfect squares -/

/-- **The root of a perfect square is exact.** -/
theorem sqrt_nearest {n : Nat} (hn : n ≠ 0) (hsmall : n * n < twoTo 53) :
    (nearest false (n * n) 1).sqrt = nearest false n 1 := by
  obtain ⟨t, hroot⟩ := sqrt_small (Nat.mul_ne_zero hn hn) hsmall
  have hsquare : n * n * twoTo (2 * t) = n * twoTo t * (n * twoTo t) := by
    rw [Nat.two_mul, twoTo_add]
    ring
  rw [hroot, hsquare, accuracyOfRoot_square, Nat.sqrt_eq]
  refine nearest_congr (Nat.mul_pos (by decide) (twoTo_pos t)) Nat.one_pos ?_
  show (4 * (n * twoTo t) + 0) * 1 = _
  ring

/-- The root of the square of an integer is its magnitude. -/
theorem sqrt_square {n : Int} (hn : n ≠ 0) (hsmall : n.natAbs * n.natAbs < twoTo 53) :
    (integer (n * n)).sqrt = nearest false n.natAbs 1 := by
  unfold integer
  rw [decide_eq_false (Int.not_lt.mpr (mul_self_nonneg n)), Int.natAbs_mul]
  exact sqrt_nearest (Int.natAbs_ne_zero.mpr hn) hsmall

end AlgebraDesk.Double

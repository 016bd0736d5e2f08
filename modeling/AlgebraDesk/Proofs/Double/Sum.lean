import AlgebraDesk.Proofs.Double.Code

/-!
# Units with a sign

Sums are computed in units.  A summand that is zero changes nothing, but for the sign of a zero.

* `add_of_ne_zero`       how a sum is computed;
* `zero_add_ofCode`, `sub_zero_ofCode`   zero and a double;
* `units`                the units of a double, with their sign;
* `eq_of_units`          finite doubles with the same units.
-/

namespace AlgebraDesk.Double

open Decimal (twoTo twoTo_pos twoTo_zero twoTo_succ)
open Float.Model (UnpackedFloat Format)
open Float.Model.UnpackedFloat

/-! ## sums -/

section
variable {s₁ s₂ : Bool} {c₁ c₂ : Nat}

theorem apply_sign (negative : Bool) (n : Nat) : (sign negative).apply n = signed negative n := by
  cases negative <;> rfl

theorem decreaseExponent_units (m k j : Nat) (h : j ≤ k) :
    ((decreaseExponent m (k - unitExponent) (j - unitExponent)).1) * twoTo j = m * twoTo k := by
  have hshift : ((k : Int) - unitExponent - (j - unitExponent)).toNat = k - j := by omega
  unfold decreaseExponent
  simp only [hshift, Nat.shiftLeft_eq]
  show m * twoTo (k - j) * twoTo j = _
  rw [Nat.mul_assoc, ← twoTo_add, Nat.sub_add_cancel h]

theorem signed_false (k : Nat) : signed false k = k := rfl

theorem signed_true (k : Nat) : signed true k = -k := rfl

theorem signed_mul (negative : Bool) (n k : Nat) :
    signed negative n * k = signed negative (n * k) := by
  cases negative <;> simp [signed]

theorem signed_eq_zero {negative : Bool} {n : Nat} : signed negative n = 0 ↔ n = 0 := by
  cases negative <;> simp [signed]

theorem natAbs_signed (negative : Bool) (k : Nat) : (signed negative k).natAbs = k := by
  cases negative <;> simp [signed]

/-- A sum of two doubles that are not zero is computed at the lower of their two scales. -/
theorem add_of_ne_zero (h₁ : c₁ < infinityCode) (h₂ : c₂ < infinityCode) (hc₁ : c₁ ≠ 0)
    (hc₂ : c₂ ≠ 0) : ∃ (M : Int) (j : Nat),
      ofCode s₁ c₁ + ofCode s₂ c₂
        = (⟨.pack (normalize Format.binary64 M (j - unitExponent) .positive)⟩ : Float) ∧
      M * twoTo j
        = signed s₁ (Magnitude.ofCode c₁).units + signed s₂ (Magnitude.ofCode c₂).units := by
  obtain ⟨hm₁, hp₁⟩ := parts_of_pos s₁ hc₁
  obtain ⟨hm₂, hp₂⟩ := parts_of_pos s₂ hc₂
  obtain ⟨j, hj⟩ : ∃ j, j = min (Magnitude.ofCode c₁).scale (Magnitude.ofCode c₂).scale := ⟨_, rfl⟩
  have hmin : min (((Magnitude.ofCode c₁).scale : Int) - unitExponent)
      ((Magnitude.ofCode c₂).scale - unitExponent) = j - unitExponent := by
    omega
  let lowered (c : Nat) : Nat := (decreaseExponent (Magnitude.ofCode c).mantissa
    ((Magnitude.ofCode c).scale - unitExponent) (j - unitExponent)).1
  refine ⟨signed s₁ (lowered c₁) + signed s₂ (lowered c₂), j, ?_, ?_⟩
  · show (⟨.pack (UnpackedFloat.add Format.binary64 (ofCode s₁ c₁).toModel.unpack
      (ofCode s₂ c₂).toModel.unpack)⟩ : Float) = _
    rw [unpack_ofCode h₁, unpack_ofCode h₂, hp₁, hp₂]
    unfold UnpackedFloat.add
    simp only [apply_sign, hmin, lowered]
  · rw [Int.add_mul, signed_mul, signed_mul, decreaseExponent_units _ _ _ (by omega),
      decreaseExponent_units _ _ _ (by omega)]
    rfl

end

/-! ## zero -/

section
variable {negative : Bool} {code : Nat}

/-- Zero and a double give the double, and no negative zero. -/
theorem zero_add_ofCode (h : code < infinityCode) :
    (0 : Float) + ofCode negative code = ofCode (negative && code != 0) code := by
  show (⟨.pack (UnpackedFloat.add Format.binary64 (0 : Float).toModel.unpack
    (ofCode negative code).toModel.unpack)⟩ : Float) = _
  rw [@ofCode_eq_pack (negative && code != 0) code h, zero_eq_ofCode, unpack_ofCode h,
    unpack_ofCode (by decide), parts_zero]
  by_cases hc : code = 0
  · rw [hc, parts_zero, parts_zero]
    cases negative <;> rfl
  · have hsign : (negative && code != 0) = negative := by simp [hc]
    obtain ⟨hm, hparts⟩ := parts_of_pos negative hc
    rw [hsign, hparts]
    rfl

theorem add_zero_ofCode (h : code < infinityCode) (hc : code ≠ 0) (negative' : Bool) :
    ofCode negative code + ofCode negative' 0 = ofCode negative code := by
  show (⟨.pack (UnpackedFloat.add Format.binary64 (ofCode negative code).toModel.unpack
    (ofCode negative' 0).toModel.unpack)⟩ : Float) = _
  obtain ⟨hm, hparts⟩ := parts_of_pos negative hc
  rw [unpack_ofCode h, unpack_ofCode (by decide), parts_zero, ofCode_eq_pack h, hparts]
  rfl

/-- Nothing is taken off, and a negative zero stays one. -/
theorem sub_zero_ofCode (h : code < infinityCode) :
    ofCode negative code - 0 = ofCode negative code := by
  show (⟨.pack (UnpackedFloat.sub Format.binary64 (ofCode negative code).toModel.unpack
    (0 : Float).toModel.unpack)⟩ : Float) = _
  rw [zero_eq_ofCode, unpack_ofCode h, unpack_ofCode (by decide), parts_zero, ofCode_eq_pack h]
  by_cases hc : code = 0
  · rw [hc, parts_zero]
    cases negative <;> rfl
  · obtain ⟨hm, hparts⟩ := parts_of_pos negative hc
    rw [hparts]
    rfl

end

/-! ## units -/

theorem unitsPerOne_eq : unitsPerOne = twoTo unitExponent := rfl

/-- The code at which a binade begins. -/
theorem units_binade {i j : Nat} (h : 52 + i = j + unitExponent) :
    (Magnitude.ofCode (i * twoTo 52 + twoTo 52)).units = twoTo j * unitsPerOne := by
  rw [unitsPerOne_eq, Magnitude.units_ofCode (twoTo_le_twoTo (by decide)) (.inr (Nat.le_refl _)),
    ← twoTo_add, ← twoTo_add, h]

/-- The units of a finite double, with their sign. -/
def units (x : Float) : Int :=
  match form x with
  | .finite negative m => signed negative m.units
  | _ => 0

theorem units_ofCode {negative : Bool} {code : Nat} (h : code < infinityCode) :
    units (ofCode negative code) = signed negative (Magnitude.ofCode code).units := by
  unfold units
  rw [form_ofCode h]

theorem units_zero (negative : Bool) : units (ofCode negative 0) = 0 := by
  rw [units_ofCode (by decide), Magnitude.units_ofCode_zero, signed_eq_zero]

theorem signed_inj {s s' : Bool} {n n' : Nat} :
    signed s n = signed s' n' ↔ n = n' ∧ (n = 0 ∨ s = s') := by
  cases s <;> cases s' <;> simp [signed] <;> omega

/-- Units tell finite doubles apart, but for the sign of zero. -/
theorem eq_of_units {x y : Float} (hx : x.isFinite = true) (hy : y.isFinite = true) (hx0 : x ≠ -0)
    (hy0 : y ≠ -0) (h : units x = units y) : x = y := by
  obtain ⟨s, c, hc, rfl⟩ := eq_ofCode_of_isFinite hx
  obtain ⟨s', c', hc', rfl⟩ := eq_ofCode_of_isFinite hy
  rw [negativeZero_eq_ofCode, ne_eq, ofCode_inj hc (by decide)] at hx0
  rw [negativeZero_eq_ofCode, ne_eq, ofCode_inj hc' (by decide)] at hy0
  rw [units_ofCode hc, units_ofCode hc', signed_inj, Magnitude.units_inj] at h
  obtain ⟨rfl, hzero | rfl⟩ := h
  · have hcode : c = 0 := by
      rw [← Magnitude.units_ofCode_zero] at hzero
      exact Magnitude.units_inj.mp hzero
    cases s <;> cases s' <;> simp_all
  · rfl

end AlgebraDesk.Double

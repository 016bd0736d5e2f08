import AlgebraDesk.Proofs.Double.Code

/-!
# Rounding is the same on both sides of zero

Negating a double flips its sign and nothing else, and every operation rounds magnitudes only.  So a
sign can be taken out of a product, a quotient or a sum, for all doubles, infinite ones and what is
not a number included.  There is one exception: two numbers that cancel give a positive zero on
either side.

* `unpack_neg`, `pack_neg`       a sign in the bits and in what the arithmetic sees;
* `mul_opposite`, `div_opposite`, `sub_eq_add_opposite`   products, quotients and differences;
* `IsFlipped`                    a double and its negative, or the positive zero twice;
* `isFlipped_add`, `isFlipped_sub`   sums whose summands are negated, differences whose sides are
  exchanged.
-/

namespace AlgebraDesk.Double

open Float.Model (UnpackedFloat Format)
open Float.Model.UnpackedFloat

/-! ## the sign in the bits -/

theorem unpack_packComponents_neg (s : Sign) (e : BitVec Format.binary64.exponentBits)
    (m : BitVec Format.binary64.mantissaBitsWithoutImplicit) :
    unpack Format.binary64 (packComponents Format.binary64 (-s) e m)
      = (unpack Format.binary64 (packComponents Format.binary64 s e m)).neg := by
  unfold unpack
  simp only [unpackExponent_packComponents, unpackMantissa_packComponents,
    unpackSign_packComponents, Sign.ofBitVec_toBitVec]
  split
  · split <;> rfl
  · split
    · split <;> rfl
    · rfl

/-- Every double but one has a sign, an exponent and a mantissa, and the other signs its bits the
other way. -/
theorem exists_components {u : UnpackedFloat} (hu : u ≠ .notANumber) : ∃ s e m,
    pack Format.binary64 u = packComponents Format.binary64 s e m ∧
      pack Format.binary64 u.neg = packComponents Format.binary64 (-s) e m := by
  cases u with
  | notANumber => exact absurd rfl hu
  | infinity s => exact ⟨s, _, _, rfl, rfl⟩
  | zero s => exact ⟨s, _, _, rfl, rfl⟩
  | finite s m e hm =>
    unfold UnpackedFloat.neg pack
    dsimp only
    split
    · exact ⟨s, _, _, rfl, rfl⟩
    · split
      · exact ⟨s, _, _, rfl, rfl⟩
      · exact ⟨s, _, _, rfl, rfl⟩

theorem pack_neg (u : UnpackedFloat) :
    (⟨.pack u.neg⟩ : Float) = -(⟨.pack u⟩ : Float) := by
  show (⟨.pack u.neg⟩ : Float)
    = ⟨.pack (unpack Format.binary64 (pack Format.binary64 u)).neg⟩
  by_cases hu : u = .notANumber
  · rw [hu]
    rfl
  · obtain ⟨s, e, m, hpack, hneg⟩ := exists_components hu
    have hunpack : (unpack Format.binary64 (pack Format.binary64 u)).neg
        = unpack Format.binary64 (pack Format.binary64 u.neg) := by
      rw [hpack, hneg, unpack_packComponents_neg]
    have hagain : pack Format.binary64 (unpack Format.binary64 (pack Format.binary64 u.neg))
        = pack Format.binary64 u.neg := pack_unpack_of_valid valid_pack
    rw [hunpack]
    unfold Float.Model.pack
    simp only [hagain]

section
variable (b : BitVec Format.binary64.numBits)

/-- Bits that stand for what is not a number may be any of these. -/
theorem unpack_pack_unpack :
    unpack Format.binary64 (pack Format.binary64 (unpack Format.binary64 b))
      = unpack Format.binary64 b := by
  rw [pack_unpack]
  split
  · rename_i hnan
    obtain ⟨hexponent, hmantissa⟩ := of_decide_eq_true hnan
    rw [unpack_packedNaN]
    unfold unpack
    simp only [hexponent, hmantissa, if_true, if_false]
  · rfl

theorem unpack_pack_neg_unpack :
    unpack Format.binary64 (pack Format.binary64 (unpack Format.binary64 b).neg)
      = (unpack Format.binary64 b).neg := by
  have hneg : (unpack Format.binary64 b).neg
      = unpack Format.binary64 (packComponents Format.binary64
          (-Sign.ofBitVec (unpackSign b)) (unpackExponent b) (unpackMantissa b)) := by
    rw [unpack_packComponents_neg, packComponents_unpackSign_unpackExponent_unpackMantissa]
  rw [hneg]
  exact unpack_pack_unpack _

end

theorem unpack_neg (x : Float) : (-x).toModel.unpack = x.toModel.unpack.neg :=
  unpack_pack_neg_unpack x.toBits.toBitVec

/-! ## products, quotients and differences -/

theorem sign_mul_neg (s t : Sign) : s * -t = -(s * t) := by cases s <;> cases t <;> rfl

theorem sign_neg_mul (s t : Sign) : -s * t = -(s * t) := by cases s <;> cases t <;> rfl

theorem sign_div_neg (s t : Sign) : s / -t = -(s / t) := by cases s <;> cases t <;> rfl

theorem sign_neg_div (s t : Sign) : -s / t = -(s / t) := by cases s <;> cases t <;> rfl

theorem sign_neg_neg (s : Sign) : - -s = s := by cases s <;> rfl

/-- Rounding looks at magnitudes only. -/
theorem roundWithAccuracy_neg (s : Sign) (m : Nat) (e : Int) (acc : Accuracy) :
    roundWithAccuracy Format.binary64 (-s) m e acc
      = (roundWithAccuracy Format.binary64 s m e acc).neg := by
  unfold roundWithAccuracy
  dsimp only
  split <;> rfl

section
variable (u v : UnpackedFloat)

theorem unpacked_mul_neg : UnpackedFloat.mul Format.binary64 u v.neg
    = (UnpackedFloat.mul Format.binary64 u v).neg := by
  cases u <;> cases v <;>
    simp only [UnpackedFloat.mul, UnpackedFloat.neg, sign_mul_neg, roundWithAccuracy_neg]

theorem unpacked_neg_mul : UnpackedFloat.mul Format.binary64 u.neg v
    = (UnpackedFloat.mul Format.binary64 u v).neg := by
  cases u <;> cases v <;>
    simp only [UnpackedFloat.mul, UnpackedFloat.neg, sign_neg_mul, roundWithAccuracy_neg]

theorem unpacked_div_neg : UnpackedFloat.div Format.binary64 u v.neg
    = (UnpackedFloat.div Format.binary64 u v).neg := by
  cases u <;> cases v <;>
    simp only [UnpackedFloat.div, UnpackedFloat.neg, sign_div_neg, roundWithAccuracy_neg]

theorem unpacked_neg_div : UnpackedFloat.div Format.binary64 u.neg v
    = (UnpackedFloat.div Format.binary64 u v).neg := by
  cases u <;> cases v <;>
    simp only [UnpackedFloat.div, UnpackedFloat.neg, sign_neg_div, roundWithAccuracy_neg]

theorem apply_neg (s : Sign) (n : Int) : (-s).apply n = -s.apply n := by
  cases s
  · exact (Int.neg_neg n).symm
  · rfl

theorem unpacked_sub_eq : UnpackedFloat.sub Format.binary64 u v
    = UnpackedFloat.add Format.binary64 u v.neg := by
  cases u <;> cases v <;>
    simp only [UnpackedFloat.sub, UnpackedFloat.add, UnpackedFloat.neg, apply_neg, Int.sub_eq_add_neg]

end

section
variable (x y : Float)

theorem opposite_opposite : - -x = x := by
  have hneg : x.toModel.unpack.neg.neg = x.toModel.unpack := by
    cases x.toModel.unpack <;> simp only [UnpackedFloat.neg, sign_neg_neg]
  show (⟨.pack (-x).toModel.unpack.neg⟩ : Float) = x
  rw [unpack_neg, hneg]
  exact Float.ofBits_toBits x

theorem mul_opposite : x * -y = -(x * y) := by
  show (⟨.pack (UnpackedFloat.mul Format.binary64 x.toModel.unpack (-y).toModel.unpack)⟩ : Float)
    = _
  rw [unpack_neg, unpacked_mul_neg, pack_neg]
  rfl

theorem opposite_mul : -x * y = -(x * y) := by
  show (⟨.pack (UnpackedFloat.mul Format.binary64 (-x).toModel.unpack y.toModel.unpack)⟩ : Float)
    = _
  rw [unpack_neg, unpacked_neg_mul, pack_neg]
  rfl

theorem div_opposite : x / -y = -(x / y) := by
  show (⟨.pack (UnpackedFloat.div Format.binary64 x.toModel.unpack (-y).toModel.unpack)⟩ : Float)
    = _
  rw [unpack_neg, unpacked_div_neg, pack_neg]
  rfl

theorem opposite_div : -x / y = -(x / y) := by
  show (⟨.pack (UnpackedFloat.div Format.binary64 (-x).toModel.unpack y.toModel.unpack)⟩ : Float)
    = _
  rw [unpack_neg, unpacked_neg_div, pack_neg]
  rfl

theorem sub_eq_add_opposite : x - y = x + -y := by
  show (⟨.pack (UnpackedFloat.sub Format.binary64 x.toModel.unpack y.toModel.unpack)⟩ : Float)
    = ⟨.pack (UnpackedFloat.add Format.binary64 x.toModel.unpack (-y).toModel.unpack)⟩
  rw [unpack_neg, unpacked_sub_eq]

theorem opposite_mul_opposite : -x * -y = x * y := by
  rw [opposite_mul, mul_opposite, opposite_opposite]

theorem opposite_div_opposite : -x / -y = x / y := by
  rw [opposite_div, div_opposite, opposite_opposite]

end

/-! ## sums -/

/-- A double and its negative, or the positive zero twice. -/
def IsFlipped (x y : Float) : Prop := y = -x ∨ (x = 0 ∧ y = 0)

theorem normalize_neg (M : Int) (e : Int) :
    normalize Format.binary64 (-M) e .positive = (normalize Format.binary64 M e .positive).neg ∨
      normalize Format.binary64 (-M) e .positive = .zero .positive ∧
        normalize Format.binary64 M e .positive = .zero .positive := by
  have hround : ∀ s m, UnpackedFloat.round Format.binary64 (-s) m e
      = (UnpackedFloat.round Format.binary64 s m e).neg :=
    fun s m => roundWithAccuracy_neg s _ _ _
  unfold UnpackedFloat.normalize
  rcases Int.lt_trichotomy M 0 with h | rfl | h
  · rw [show compare M 0 = .lt from Int.compare_eq_lt.mpr h,
      show compare (-M) 0 = .gt from Int.compare_eq_gt.mpr (by omega)]
    exact .inl (hround .negative _)
  · exact .inr ⟨rfl, rfl⟩
  · rw [show compare M 0 = .gt from Int.compare_eq_gt.mpr h,
      show compare (-M) 0 = .lt from Int.compare_eq_lt.mpr (by omega), Int.neg_neg]
    exact .inl (hround .positive _)

theorem unpacked_add_neg (u v : UnpackedFloat) :
    UnpackedFloat.add Format.binary64 u.neg v.neg = (UnpackedFloat.add Format.binary64 u v).neg ∨
      UnpackedFloat.add Format.binary64 u.neg v.neg = .zero .positive ∧
        UnpackedFloat.add Format.binary64 u v = .zero .positive := by
  cases u with
  | notANumber => exact .inl rfl
  | infinity s =>
    cases v with
    | infinity t => cases s <;> cases t <;> exact .inl rfl
    | _ => exact .inl rfl
  | zero s =>
    cases v with
    | zero t =>
      cases s <;> cases t
      · exact .inl rfl
      · exact .inr ⟨rfl, rfl⟩
      · exact .inr ⟨rfl, rfl⟩
      · exact .inl rfl
    | _ => exact .inl rfl
  | finite s m e hm =>
    cases v with
    | finite t m' e' hm' =>
      simp only [UnpackedFloat.add, UnpackedFloat.neg, apply_neg, ← Int.neg_add]
      exact normalize_neg _ _
    | _ => exact .inl rfl

/-- **Sums are flipped with their summands.** -/
theorem isFlipped_add (x y : Float) : IsFlipped (x + y) (-x + -y) := by
  have hzero : (⟨.pack (.zero .positive)⟩ : Float) = 0 := by rfl
  have hsum : x + y
      = ⟨.pack (UnpackedFloat.add Format.binary64 x.toModel.unpack y.toModel.unpack)⟩ := rfl
  have hflipped : -x + -y
      = ⟨.pack (UnpackedFloat.add Format.binary64 x.toModel.unpack.neg y.toModel.unpack.neg)⟩ := by
    rw [← unpack_neg, ← unpack_neg]
    rfl
  rcases unpacked_add_neg x.toModel.unpack y.toModel.unpack with h | ⟨h, h'⟩
  · refine .inl ?_
    rw [hflipped, h, pack_neg, hsum]
  · refine .inr ⟨?_, ?_⟩
    · rw [hsum, h', hzero]
    · rw [hflipped, h, hzero]

theorem unpacked_add_comm (u v : UnpackedFloat) :
    UnpackedFloat.add Format.binary64 u v = UnpackedFloat.add Format.binary64 v u := by
  cases u with
  | notANumber => cases v <;> rfl
  | infinity s =>
    cases v with
    | infinity t => cases s <;> cases t <;> rfl
    | _ => rfl
  | zero s =>
    cases v with
    | zero t => cases s <;> cases t <;> rfl
    | _ => rfl
  | finite s m e hm =>
    cases v with
    | finite t m' e' hm' => simp only [UnpackedFloat.add, Int.min_comm e e', Int.add_comm]
    | _ => rfl

theorem sum_swap (x y : Float) : x + y = y + x := by
  show (⟨.pack (UnpackedFloat.add Format.binary64 x.toModel.unpack y.toModel.unpack)⟩ : Float)
    = ⟨.pack (UnpackedFloat.add Format.binary64 y.toModel.unpack x.toModel.unpack)⟩
  rw [unpacked_add_comm]

/-- **A difference is flipped when its sides are exchanged.** -/
theorem isFlipped_sub (x y : Float) : IsFlipped (x - y) (y - x) := by
  have h := isFlipped_add x (-y)
  rwa [opposite_opposite, ← sub_eq_add_opposite, sum_swap (-x), ← sub_eq_add_opposite] at h

/-- A negative zero adds nothing, not even a sign. -/
theorem negativeZero_add (x : Float) : -0 + x = x := by
  have hzero : (-0 : Float).toModel.unpack = .zero .negative := by
    rw [negativeZero_eq_ofCode, unpack_ofCode (by decide), parts_zero]
    rfl
  have hsum : UnpackedFloat.add Format.binary64 (.zero .negative) x.toModel.unpack
      = x.toModel.unpack := by
    cases x.toModel.unpack with
    | zero s => cases s <;> rfl
    | _ => rfl
  show (⟨.pack (UnpackedFloat.add Format.binary64 (-0 : Float).toModel.unpack x.toModel.unpack)⟩
    : Float) = x
  rw [hzero, hsum]
  exact Float.ofBits_toBits x

theorem opposite_beq_zero (x : Float) : (-x == 0) = (x == 0) := by
  have hneg : UnpackedFloat.beq x.toModel.unpack.neg (0 : Float).toModel.unpack
      = UnpackedFloat.beq x.toModel.unpack (0 : Float).toModel.unpack := by
    rw [zero_eq_ofCode, unpack_ofCode (by decide), parts_zero]
    cases x.toModel.unpack with
    | infinity s => cases s <;> rfl
    | finite s m e hm => cases s <;> rfl
    | _ => rfl
  show UnpackedFloat.beq (-x).toModel.unpack (0 : Float).toModel.unpack = _
  rw [unpack_neg, hneg]
  rfl

theorem isFinite_opposite (x : Float) : (-x).isFinite = x.isFinite := by
  show (-x).toModel.unpack.isFinite = x.toModel.unpack.isFinite
  rw [unpack_neg]
  cases x.toModel.unpack <;> rfl

section
variable {x y : Float}

theorem IsFlipped.beq_zero (h : IsFlipped x y) : (y == 0) = (x == 0) := by
  rcases h with rfl | ⟨rfl, rfl⟩
  · exact opposite_beq_zero x
  · rfl

/-- The one way to be flipped for what is not zero. -/
theorem IsFlipped.eq_opposite (h : IsFlipped x y) (hx : (x == 0) = false) : y = -x := by
  rcases h with h | ⟨rfl, _⟩
  · exact h
  · exact nomatch hx

theorem IsFlipped.square (h : IsFlipped x y) : y * y = x * x := by
  rcases h with rfl | ⟨rfl, rfl⟩
  · exact opposite_mul_opposite x x
  · rfl

/-- What is added to the negatives is flipped with them. -/
theorem IsFlipped.opposite_add (h : IsFlipped x y) (z : Float) : IsFlipped (-x + z) (-y + -z) := by
  rcases h with rfl | ⟨rfl, rfl⟩
  · exact isFlipped_add (-x) z
  · rw [negativeZero_add, negativeZero_add]
    exact .inl rfl

end

end AlgebraDesk.Double

import AlgebraDesk.Proofs.Double.Negation
import AlgebraDesk.Proofs.Double.Sum

/-!
# Doubles that can be compared

Two doubles that are numbers are equal, or one of them is less than the other.  What is not a number
comes out of an operation only when two infinities or two zeros meet, or when a root is taken of a
negative number.

* `pack_ne_nan`          what the arithmetic packs is a number, unless it says that it is none;
* `add_ne_nan`, `div_ne_nan`, `sqrt_ne_nan`   results that are numbers;
* `isFinite_of_sub`, `isFinite_of_mul`        operands of finite results;
* `eq_of_not_lt`, `le_of_not_lt`              numbers of which neither is less;
* `lt_of_units_lt`       finite doubles have the order of their units.
-/

namespace AlgebraDesk.Double

open Float.Model (UnpackedFloat Format)
open Float.Model.UnpackedFloat

/-! ## what is not a number -/

theorem unpack_eq_notANumber {x : Float} : x.toModel.unpack = .notANumber ↔ x = Float.nan := by
  have h : x.toModel.unpack.isNaN = decide (x = Float.nan) := Float.isNaN_eq_decide_eq_nan
  rw [← UnpackedFloat.isNaN_iff, h, decide_eq_true_iff]

theorem packComponents_ne_packedNaN {s : Sign} {e : BitVec Format.binary64.exponentBits}
    {m : BitVec Format.binary64.mantissaBitsWithoutImplicit} (h : m = 0 ∨ e ≠ -1) :
    packComponents Format.binary64 s e m ≠ packedNaN Format.binary64 := by
  intro hnan
  rcases h with rfl | he
  · have hmantissa := congrArg unpackMantissa hnan
    unfold packedNaN at hmantissa
    rw [unpackMantissa_packComponents, unpackMantissa_packComponents] at hmantissa
    exact absurd hmantissa (by decide)
  · have hexponent := congrArg unpackExponent hnan
    unfold packedNaN at hexponent
    rw [unpackExponent_packComponents, unpackExponent_packComponents] at hexponent
    exact he hexponent

theorem pack_ne_packedNaN {u : UnpackedFloat} (hu : u ≠ .notANumber) :
    pack Format.binary64 u ≠ packedNaN Format.binary64 := by
  cases u with
  | notANumber => exact absurd rfl hu
  | infinity s => exact packComponents_ne_packedNaN (.inl rfl)
  | zero s => exact packComponents_ne_packedNaN (.inl rfl)
  | finite s m e hm =>
    unfold pack
    dsimp only
    split
    · exact packComponents_ne_packedNaN (.inl rfl)
    · split
      · rename_i hlast _
        refine packComponents_ne_packedNaN (.inr fun he => hlast ?_)
        have hfield := congrArg BitVec.toNat he
        have hlow : ∀ n, (BitVec.ofNat Format.binary64.exponentBits n).toNat ≤ n := fun n => by
          rw [BitVec.toNat_ofNat]
          exact Nat.mod_le n _
        have hfull : (-1 : BitVec Format.binary64.exponentBits).toNat + 1
          = 2 ^ Format.binary64.exponentBits := by decide
        rw [← hfull, ← hfield]
        exact Nat.succ_le_succ (hlow _)
      · exact packComponents_ne_packedNaN (.inr (by decide))

theorem pack_ne_nan {u : UnpackedFloat} (hu : u ≠ .notANumber) :
    (⟨.pack u⟩ : Float) ≠ Float.nan := by
  intro h
  exact pack_ne_packedNaN hu (congrArg (fun x => x.toBits.toBitVec) h)

theorem roundWithAccuracy_ne_notANumber (s : Sign) (m : Nat) (e : Int) (acc : Accuracy) :
    roundWithAccuracy Format.binary64 s m e acc ≠ .notANumber := by
  unfold roundWithAccuracy
  dsimp only
  split <;> exact nofun

theorem normalize_ne_notANumber (M : Int) (e : Int) (s : Sign) :
    normalize Format.binary64 M e s ≠ .notANumber := by
  have hround : ∀ s m, UnpackedFloat.round Format.binary64 s m e ≠ .notANumber :=
    fun s m => roundWithAccuracy_ne_notANumber s _ _ _
  unfold UnpackedFloat.normalize
  split
  · exact hround _ _
  · exact nofun
  · exact hround _ _

section
variable {x y : Float}

theorem opposite_ne_nan (h : x ≠ Float.nan) : -x ≠ Float.nan := by
  rw [ne_eq, ← unpack_eq_notANumber] at h ⊢
  rw [unpack_neg]
  cases hx : x.toModel.unpack with
  | notANumber => exact absurd hx h
  | _ => exact nofun

/-- A finite double is added to any number. -/
theorem add_ne_nan (hx : x.isFinite = true) (hy : y ≠ Float.nan) : x + y ≠ Float.nan := by
  rw [ne_eq, ← unpack_eq_notANumber] at hy
  refine pack_ne_nan ?_
  have hfinite : x.toModel.unpack.isFinite = true := hx
  show UnpackedFloat.add Format.binary64 x.toModel.unpack y.toModel.unpack ≠ .notANumber
  cases hu : x.toModel.unpack with
  | notANumber =>
    rw [hu] at hfinite
    cases hfinite
  | infinity s =>
    rw [hu] at hfinite
    cases hfinite
  | zero s =>
    cases hv : y.toModel.unpack with
    | notANumber => exact absurd hv hy
    | zero t => cases s <;> cases t <;> exact nofun
    | _ => exact nofun
  | finite s m e hm =>
    cases hv : y.toModel.unpack with
    | notANumber => exact absurd hv hy
    | finite t m' e' hm' => exact normalize_ne_notANumber _ _ _
    | _ => exact nofun

/-- A number is divided by a finite double that is not zero. -/
theorem div_ne_nan (hx : x ≠ Float.nan) (hy : y.isFinite = true) (hzero : (y == 0) = false) :
    x / y ≠ Float.nan := by
  obtain ⟨s, c, hc, rfl⟩ := eq_ofCode_of_isFinite hy
  rw [beq_zero_ofCode hc] at hzero
  obtain ⟨hm, hparts⟩ := parts_of_pos s (beq_eq_false_iff_ne.mp hzero)
  rw [ne_eq, ← unpack_eq_notANumber] at hx
  refine pack_ne_nan ?_
  show UnpackedFloat.div Format.binary64 x.toModel.unpack (ofCode s c).toModel.unpack
    ≠ .notANumber
  rw [unpack_ofCode hc, hparts]
  cases hu : x.toModel.unpack with
  | notANumber => exact absurd hu hx
  | finite t m e hm' => exact roundWithAccuracy_ne_notANumber _ _ _ _
  | _ => exact nofun

theorem sqrt_ne_nan (h : x > 0) : x.sqrt ≠ Float.nan := by
  have hgt : (UnpackedFloat.compare (0 : Float).toModel.unpack x.toModel.unpack == some .lt)
      = true := of_decide_eq_true h
  rw [zero_eq_ofCode, unpack_ofCode (by decide), parts_zero] at hgt
  refine pack_ne_nan ?_
  show UnpackedFloat.sqrt Format.binary64 x.toModel.unpack ≠ .notANumber
  cases hx : x.toModel.unpack with
  | notANumber =>
    rw [hx] at hgt
    cases hgt
  | infinity s =>
    rw [hx] at hgt
    cases s
    · cases hgt
    · exact nofun
  | zero s => exact nofun
  | finite s m e hm =>
    rw [hx] at hgt
    cases s
    · cases hgt
    · exact roundWithAccuracy_ne_notANumber _ _ _ _

/-! ## finite results -/

theorem isFinite_of_pack {u : UnpackedFloat} (h : (⟨.pack u⟩ : Float).isFinite = true) :
    u.isFinite = true := by
  cases u with
  | notANumber => cases h
  | infinity s => cases s <;> cases h
  | zero s => rfl
  | finite s m e hm => rfl

theorem isFinite_of_mul (h : (x * y).isFinite = true) : x.isFinite = true := by
  have hproduct : (UnpackedFloat.mul Format.binary64 x.toModel.unpack
    y.toModel.unpack).isFinite = true := isFinite_of_pack h
  show x.toModel.unpack.isFinite = true
  cases hx : x.toModel.unpack with
  | notANumber =>
    rw [hx] at hproduct
    cases hproduct
  | infinity s =>
    rw [hx] at hproduct
    cases hy : y.toModel.unpack <;> rw [hy] at hproduct <;> cases hproduct
  | zero s => rfl
  | finite s m e hm => rfl

theorem isFinite_of_sub (h : (x - y).isFinite = true) : x.isFinite = true ∧ y.isFinite = true := by
  have hdifference : (UnpackedFloat.sub Format.binary64 x.toModel.unpack
    y.toModel.unpack).isFinite = true := isFinite_of_pack h
  show x.toModel.unpack.isFinite = true ∧ y.toModel.unpack.isFinite = true
  cases hx : x.toModel.unpack with
  | notANumber =>
    rw [hx] at hdifference
    cases hdifference
  | infinity s =>
    rw [hx] at hdifference
    cases hy : y.toModel.unpack with
    | infinity t =>
      rw [hy] at hdifference
      cases s <;> cases t <;> cases hdifference
    | _ =>
      rw [hy] at hdifference
      cases hdifference
  | _ =>
    refine ⟨rfl, ?_⟩
    rw [hx] at hdifference
    cases hy : y.toModel.unpack with
    | zero t => rfl
    | finite t m e hm => rfl
    | _ =>
      rw [hy] at hdifference
      cases hdifference

/-! ## the order -/

theorem compare_then_swap (e e' : Int) (m m' : Nat) : (compare e' e).then (compare m' m)
    = ((compare e e').then (compare m m')).swap := by
  rw [Ordering.swap_then, ← Std.OrientedCmp.eq_swap, ← Std.OrientedCmp.eq_swap]

theorem compare_swap (u v : UnpackedFloat) :
    UnpackedFloat.compare v u = (UnpackedFloat.compare u v).map .swap := by
  cases u with
  | notANumber => cases v <;> rfl
  | infinity s =>
    cases v with
    | infinity t => cases s <;> cases t <;> rfl
    | _ => cases s <;> rfl
  | zero s =>
    cases v with
    | infinity t => cases t <;> rfl
    | finite t m e hm => cases t <;> rfl
    | _ => rfl
  | finite s m e hm =>
    cases v with
    | notANumber => rfl
    | infinity t => cases s <;> cases t <;> rfl
    | zero t => cases s <;> rfl
    | finite t m' e' hm' =>
      cases s <;> cases t
      · show some (Ordering.swap _) = some (Ordering.swap (Ordering.swap _))
        rw [compare_then_swap e]
      · rfl
      · rfl
      · exact congrArg some (compare_then_swap e e' m m')

theorem compare_eq_none {u v : UnpackedFloat} (h : UnpackedFloat.compare u v = none) :
    u = .notANumber ∨ v = .notANumber := by
  cases u with
  | notANumber => exact .inl rfl
  | infinity s =>
    cases v with
    | notANumber => exact .inr rfl
    | _ => cases s <;> cases h
  | zero s =>
    cases v with
    | notANumber => exact .inr rfl
    | zero t => cases h
    | infinity t => cases t <;> cases h
    | finite t m e hm => cases t <;> cases h
  | finite s m e hm =>
    cases v with
    | notANumber => exact .inr rfl
    | infinity t => cases s <;> cases t <;> cases h
    | zero t => cases s <;> cases h
    | finite t m' e' hm' => cases s <;> cases t <;> cases h

theorem lt_iff_compare : x < y ↔
    UnpackedFloat.compare x.toModel.unpack y.toModel.unpack = some .lt := by
  show decide (x.toModel < y.toModel) = true ↔ _
  rw [decide_eq_true_iff]
  exact beq_iff_eq

theorem not_lt_of_lt (h : x < y) : ¬ y < x := by
  rw [lt_iff_compare] at h ⊢
  rw [compare_swap x.toModel.unpack, h]
  exact nofun

theorem compare_of_not_lt (hx : x ≠ Float.nan) (hy : y ≠ Float.nan) (h : ¬ y < x) :
    UnpackedFloat.compare x.toModel.unpack y.toModel.unpack = some .lt ∨
      UnpackedFloat.compare x.toModel.unpack y.toModel.unpack = some .eq := by
  rw [lt_iff_compare, compare_swap x.toModel.unpack] at h
  cases ho : UnpackedFloat.compare x.toModel.unpack y.toModel.unpack with
  | none =>
    rcases compare_eq_none ho with h | h
    · exact absurd (unpack_eq_notANumber.mp h) hx
    · exact absurd (unpack_eq_notANumber.mp h) hy
  | some o =>
    rw [ho] at h
    cases o with
    | lt => exact .inl rfl
    | eq => exact .inr rfl
    | gt => exact absurd rfl h

theorem le_of_not_lt (hx : x ≠ Float.nan) (hy : y ≠ Float.nan) (h : ¬ y < x) : x ≤ y := by
  show decide (x.toModel ≤ y.toModel) = true
  rw [decide_eq_true_iff]
  show (UnpackedFloat.compare x.toModel.unpack y.toModel.unpack).any (·.isLE) = true
  rcases compare_of_not_lt hx hy h with h | h <;> rw [h] <;> rfl

/-- **Numbers of which neither is less are equal**, when none is a negative zero. -/
theorem eq_of_not_lt (hx : x ≠ Float.nan) (hy : y ≠ Float.nan) (hx0 : x ≠ -0) (hy0 : y ≠ -0)
    (h : ¬ x < y) (h' : ¬ y < x) : x = y := by
  have heq := (compare_of_not_lt hx hy h').resolve_left (mt lt_iff_compare.mpr h)
  have hbeq : (UnpackedFloat.compare x.toModel.unpack y.toModel.unpack == some .eq) = true :=
    beq_iff_eq.mpr heq
  obtain ⟨_, _, hxy | ⟨_, hzero⟩ | ⟨hzero, _⟩⟩ := Float.beq_iff_ne_nan_and_eq.mp hbeq
  · exact hxy
  · exact absurd hzero hy0
  · exact absurd hzero hx0

/-! ## the order of units -/

/-- The scale is compared first and then the mantissa. -/
theorem compare_magnitude {c d : Nat} (h : c < d) :
    (compare ((Magnitude.ofCode c).scale - unitExponent : Int)
      ((Magnitude.ofCode d).scale - unitExponent)).then
        (compare (Magnitude.ofCode c).mantissa (Magnitude.ofCode d).mantissa) = .lt := by
  have hlex : (Magnitude.ofCode c).scale < (Magnitude.ofCode d).scale ∨
      (Magnitude.ofCode c).scale = (Magnitude.ofCode d).scale ∧
        (Magnitude.ofCode c).mantissa < (Magnitude.ofCode d).mantissa := by
    unfold Magnitude.ofCode
    rw [twoTo_52, twoTo_53]
    split
    · split
      · exact .inr ⟨rfl, h⟩
      · simp only
        omega
    · rw [if_neg (by omega)]
      simp only
      omega
  rcases hlex with hscale | ⟨hscale, hmantissa⟩
  · rw [Int.compare_eq_lt.mpr (by omega)]
    rfl
  · rw [hscale, Int.compare_eq_eq.mpr rfl, Nat.compare_eq_lt.mpr hmantissa]
    rfl

theorem lt_positive {c d : Nat} (hd : d < infinityCode) (h : c < d) :
    ofCode false c < ofCode false d := by
  rw [lt_iff_compare, unpack_ofCode (Nat.lt_trans h hd), unpack_ofCode hd]
  obtain ⟨_, hparts⟩ := parts_of_pos false (Nat.ne_of_gt (Nat.zero_lt_of_lt h))
  by_cases hc0 : c = 0
  · rw [hc0, parts_zero, hparts]
    rfl
  · obtain ⟨_, hparts'⟩ := parts_of_pos false hc0
    rw [hparts, hparts']
    exact congrArg some (compare_magnitude h)

theorem lt_negative {c d : Nat} (hc : c < infinityCode) (h : d < c) :
    ofCode true c < ofCode true d := by
  rw [lt_iff_compare, unpack_ofCode hc, unpack_ofCode (Nat.lt_trans h hc)]
  obtain ⟨_, hparts⟩ := parts_of_pos true (Nat.ne_of_gt (Nat.zero_lt_of_lt h))
  by_cases hd0 : d = 0
  · rw [hd0, parts_zero, hparts]
    rfl
  · obtain ⟨_, hparts'⟩ := parts_of_pos true hd0
    rw [hparts, hparts']
    show some (Ordering.swap _) = some .lt
    rw [← compare_then_swap, compare_magnitude h]

theorem negative_lt_positive {c d : Nat} (hc : c < infinityCode) (hd : d < infinityCode)
    (h : c ≠ 0 ∨ d ≠ 0) : ofCode true c < ofCode false d := by
  rw [lt_iff_compare, unpack_ofCode hc, unpack_ofCode hd]
  by_cases hc0 : c = 0
  · obtain ⟨_, hparts⟩ := parts_of_pos false (h.resolve_left fun hne => hne hc0)
    rw [hc0, parts_zero, hparts]
    rfl
  · obtain ⟨_, hparts⟩ := parts_of_pos true hc0
    rw [hparts]
    unfold parts
    split <;> rfl

/-- **What has fewer units is less.** -/
theorem lt_of_units_lt (hx : x.isFinite = true) (hy : y.isFinite = true) (h : units x < units y) :
    x < y := by
  obtain ⟨s, c, hc, rfl⟩ := eq_ofCode_of_isFinite hx
  obtain ⟨t, d, hd, rfl⟩ := eq_ofCode_of_isFinite hy
  rw [units_ofCode hc, units_ofCode hd] at h
  cases s with
  | false =>
    cases t with
    | false => exact lt_positive hd (Magnitude.units_lt_units.mp (Int.ofNat_lt.mp h))
    | true =>
      rw [signed, if_neg Bool.false_ne_true, signed, if_pos rfl] at h
      omega
  | true =>
    cases t with
    | false =>
      refine negative_lt_positive hc hd ?_
      by_contra hzero
      obtain ⟨rfl, rfl⟩ : c = 0 ∧ d = 0 := by omega
      rw [Magnitude.units_ofCode_zero] at h
      exact Int.lt_irrefl 0 h
    | true =>
      have hunits := Int.ofNat_lt.mp (Int.neg_lt_neg_iff.mp h)
      exact lt_negative hc (Magnitude.units_lt_units.mp hunits)

end

end AlgebraDesk.Double

import AlgebraDesk.Analysis.Curve
import AlgebraDesk.Proofs.Double.Comparison
import AlgebraDesk.Proofs.Double.Rational
import AlgebraDesk.Proofs.Double.Doubling

/-!
# A polynomial and its negative

A polynomial and its negative have the same discriminant, the same roots in the same order and the
same axis, to the last bit.  The leading coefficient changes its sign, so the two formulas for the
roots change places; putting the roots in order undoes that, since they are numbers and never a
negative zero.

* `Polynomial.IsFlipped`   every coefficient negated, or zero on both sides;
* `clean_opposite_div`, `clean_div_opposite`   quotients of flipped doubles, once their zeros are
  cleaned;
* `discriminant_flipped`, `roots_flipped`, `vertex_flipped`   what such polynomials have in common;
* `ascending_swap`, `pairwise_roots`   the order of the roots.
-/

namespace AlgebraDesk

open Double (IsFlipped Magnitude infinityCode ofCode)

structure Polynomial.IsFlipped (p q : Polynomial) : Prop where
  a : Double.IsFlipped p.a q.a
  b : Double.IsFlipped p.b q.b
  c : Double.IsFlipped p.c q.c

/-- Bringing the left side over instead of the right one. -/
theorem Polynomial.isFlipped_sub (p q : Polynomial) : (p.sub q).IsFlipped (q.sub p) :=
  ⟨Double.isFlipped_sub _ _, Double.isFlipped_sub _ _, Double.isFlipped_sub _ _⟩

theorem Polynomial.IsFlipped.isLinear {p q : Polynomial} (h : p.IsFlipped q) :
    q.isLinear = p.isLinear :=
  h.a.beq_zero

namespace Quadratic

open Float.Model (UnpackedFloat Format)

/-! ## cleaned zeros -/

section
variable {x y z : Float}

theorem clean_ne_nan (hx : x ≠ Float.nan) : clean x ≠ Float.nan := by
  have hzero : (0.0 : Float).isFinite = true := by rfl
  show x + 0.0 ≠ Float.nan
  rw [Double.sum_swap]
  exact Double.add_ne_nan hzero hx

theorem clean_ofCode {negative : Bool} {code : Nat} (h : code < infinityCode) :
    clean (ofCode negative code) = ofCode (negative && code != 0) code := by
  have hzero : (0.0 : Float) = 0 := by rfl
  show ofCode negative code + 0.0 = _
  rw [hzero, Double.sum_swap, Double.zero_add_ofCode h]

/-- **No negative zero is left.** -/
theorem clean_ne_negativeZero (x : Float) : clean x ≠ -0 := by
  cases hfinite : x.isFinite with
  | true =>
    obtain ⟨s, c, hc, rfl⟩ := Double.eq_ofCode_of_isFinite hfinite
    rw [clean_ofCode hc, Double.negativeZero_eq_ofCode, ne_eq, Double.ofCode_inj hc (by decide)]
    rintro ⟨hs, rfl⟩
    rw [bne_self_eq_false, Bool.and_false] at hs
    exact Bool.false_ne_true hs
  | false =>
    have hunpack : x.toModel.unpack.isFinite = false := hfinite
    show (⟨.pack (UnpackedFloat.add Format.binary64 x.toModel.unpack (0.0 : Float).toModel.unpack)⟩
      : Float) ≠ -0
    cases hx : x.toModel.unpack with
    | notANumber => exact fun h => nomatch congrArg Float.isNaN h
    | infinity s => cases s <;> exact fun h => nomatch congrArg Float.isInf h
    | zero s =>
      rw [hx] at hunpack
      cases hunpack
    | finite s m e hm =>
      rw [hx] at hunpack
      cases hunpack

/-- The doubles on which cleaning cannot see a sign. -/
def IsSignless (x : Float) : Prop := x = 0 ∨ x = -0 ∨ x = Float.nan

theorem IsSignless.clean_opposite (h : IsSignless x) : clean (-x) = clean x := by
  rcases h with rfl | rfl | rfl <;> rfl

theorem isSignless_zero (s : Float.Model.UnpackedFloat.Sign) :
    IsSignless (⟨.pack (.zero s)⟩ : Float) := by
  cases s
  · exact .inr (.inl rfl)
  · exact .inl rfl

theorem isSignless_nan : IsSignless (⟨.pack .notANumber⟩ : Float) := .inr (.inr rfl)

/-- Zero divided by anything. -/
theorem isSignless_zero_div (y : Float) : IsSignless (0 / y) := by
  show IsSignless (⟨.pack (UnpackedFloat.div Format.binary64 (0 : Float).toModel.unpack
    y.toModel.unpack)⟩ : Float)
  rw [Double.zero_eq_ofCode, Double.unpack_ofCode (by decide), Double.parts_zero]
  cases y.toModel.unpack with
  | notANumber => exact isSignless_nan
  | infinity s => exact isSignless_zero _
  | zero s => exact isSignless_nan
  | finite s m e hm => exact isSignless_zero _

theorem isSignless_mul_zero (x : Float) : IsSignless (x * 0) := by
  show IsSignless (⟨.pack (UnpackedFloat.mul Format.binary64 x.toModel.unpack
    (0 : Float).toModel.unpack)⟩ : Float)
  rw [Double.zero_eq_ofCode, Double.unpack_ofCode (by decide), Double.parts_zero]
  cases x.toModel.unpack with
  | notANumber => exact isSignless_nan
  | infinity s => exact isSignless_nan
  | zero s => exact isSignless_zero _
  | finite s m e hm => exact isSignless_zero _

theorem clean_div_opposite (h : IsFlipped x y) (z : Float) : clean (y / -z) = clean (x / z) := by
  rcases h with rfl | ⟨rfl, rfl⟩
  · rw [Double.opposite_div_opposite]
  · rw [Double.div_opposite]
    exact (isSignless_zero_div z).clean_opposite

theorem clean_opposite_div (h : IsFlipped x y) (z : Float) :
    clean (-y / -z) = clean (-x / z) := by
  have hdiv := clean_div_opposite h (-z)
  rw [Double.opposite_opposite] at hdiv
  rw [Double.opposite_div_opposite, hdiv, Double.div_opposite, Double.opposite_div]

/-- A square has no sign to lose. -/
theorem square_sub_opposite (hx : x.isFinite = true) (hsquare : (x * x).isFinite = true)
    (hz : IsSignless z) : x * x - -z = x * x - z := by
  obtain ⟨s, c, hc, rfl⟩ := Double.eq_ofCode_of_isFinite hx
  rw [Double.mul_ofCode hc hc, bne_self_eq_false] at hsquare ⊢
  have hcode := Double.nearestCode_lt hsquare
  unfold Double.nearest
  rw [Nat.min_eq_left (Nat.le_of_lt hcode)]
  generalize Double.nearestCode _ _ = code at hcode
  have hadd : ofCode false code + 0 = ofCode false code - 0 := by
    rw [Double.sum_swap, Double.zero_add_ofCode hcode, Double.sub_zero_ofCode hcode]
    rfl
  rcases hz with rfl | rfl | rfl
  · rw [Double.sub_eq_add_opposite, Double.opposite_opposite, hadd]
  · rw [Double.opposite_opposite, Double.sub_eq_add_opposite _ (-0), Double.opposite_opposite,
      hadd]
  · rfl

/-! ## what flipped polynomials have in common -/

variable {a b c a' b' c' : Float}

theorem discriminant_flipped (ha : a' = -a) (hb : IsFlipped b b') (hc : IsFlipped c c')
    (hfinite : b.isFinite = true) (hd : (discriminant a b c).isFinite = true) :
    discriminant a' b' c' = discriminant a b c := by
  have hsquare := (Double.isFinite_of_sub hd).1
  have hfour : 4 * -a = -(4 * a) := Double.mul_opposite 4 a
  unfold discriminant
  rw [hb.square, ha, hfour]
  rcases hc with rfl | ⟨rfl, rfl⟩
  · rw [Double.opposite_mul_opposite]
  · rw [Double.opposite_mul]
    exact square_sub_opposite hfinite hsquare (isSignless_mul_zero _)

theorem vertex_flipped (ha : a' = -a) (hb : IsFlipped b b') (c c' : Float) :
    (vertex a' b' c').x = (vertex a b c).x := by
  have htwo : 2 * a' = -(2 * a) := by rw [ha, Double.mul_opposite]
  show clean (-b' / (2 * a')) = clean (-b / (2 * a))
  rw [htwo]
  exact clean_opposite_div hb _

/-! ## the order of the roots -/

/-- Two numbers are put in the same order whichever comes first. -/
theorem ascending_swap (hx : x ≠ Float.nan) (hy : y ≠ Float.nan) (hx0 : x ≠ -0) (hy0 : y ≠ -0) :
    ascending y x = ascending x y := by
  unfold ascending
  by_cases hlt : x < y
  · rw [if_pos hlt, if_neg (Double.not_lt_of_lt hlt)]
  · by_cases hgt : y < x
    · rw [if_neg hlt, if_pos hgt]
    · rw [if_neg hlt, if_neg hgt, Double.eq_of_not_lt hx hy hx0 hy0 hlt hgt]

theorem pairwise_ascending (hx : x ≠ Float.nan) (hy : y ≠ Float.nan) :
    (ascending x y).Pairwise (· ≤ ·) := by
  unfold ascending
  split
  · rename_i hlt
    exact List.pairwise_pair.mpr (Double.le_of_not_lt hy hx (Double.not_lt_of_lt hlt))
  · rename_i hlt
    exact List.pairwise_pair.mpr (Double.le_of_not_lt hx hy hlt)

/-- Twice a double is finite when four times the double is. -/
theorem isFinite_two_mul (ha : a.isFinite = true) (h : (4 * a).isFinite = true) :
    (2 * a).isFinite = true := by
  obtain ⟨s, u, hu, rfl⟩ := Double.eq_ofCode_of_isFinite ha
  have hfour : (4 : Float) = ofCode false (1025 * Decimal.twoTo 52) := by rfl
  rw [hfour, Double.mul_ofCode (by decide) hu] at h
  rw [Double.two_eq_ofCode, Double.mul_ofCode (by decide) hu]
  have hle : (Magnitude.ofCode Double.twoCode).units
      ≤ (Magnitude.ofCode (1025 * Decimal.twoTo 52)).units :=
    Magnitude.units_strictMono.monotone (by decide)
  have hone : 0 < Double.unitsPerOne * Double.unitsPerOne :=
    Nat.mul_pos Double.unitsPerOne_pos Double.unitsPerOne_pos
  have hcode := Nat.lt_of_le_of_lt
    (Double.nearestCode_mono hone (Nat.mul_le_mul_right (Magnitude.ofCode u).units hle))
    (Double.nearestCode_lt h)
  exact Double.isFinite_ofCode (Nat.lt_of_le_of_lt (Nat.min_le_left _ _) hcode)

/-- What is needed for the roots to be numbers. -/
structure Divides (a b : Float) : Prop where
  a_ne_zero : (a == 0) = false
  finite_two_mul : (2 * a).isFinite = true
  finite_b : b.isFinite = true

theorem Divides.root_ne_nan (h : Divides a b) {s : Float} (hs : s ≠ Float.nan) :
    clean ((-b + s) / (2 * a)) ≠ Float.nan := by
  have hfinite : (-b).isFinite = true := by rw [Double.isFinite_opposite, h.finite_b]
  exact clean_ne_nan (Double.div_ne_nan (Double.add_ne_nan hfinite hs) h.finite_two_mul
    (Double.two_mul_beq_zero h.a_ne_zero))

/-- **The roots are the same, in the same order.** -/
theorem roots_flipped (h : Divides a b) (ha : a' = -a) (hb : IsFlipped b b') (d : Float) :
    roots a' b' d = roots a b d := by
  have htwo : 2 * a' = -(2 * a) := by rw [ha, Double.mul_opposite]
  unfold roots
  rw [htwo]
  by_cases hd : d > 0
  · have hs := Double.sqrt_ne_nan hd
    -- the two formulas change places
    have hless : clean ((-b' - d.sqrt) / -(2 * a)) = clean ((-b + d.sqrt) / (2 * a)) := by
      rw [Double.sub_eq_add_opposite]
      exact clean_div_opposite (hb.opposite_add _) _
    have hmore : clean ((-b' + d.sqrt) / -(2 * a)) = clean ((-b + -d.sqrt) / (2 * a)) := by
      have hflipped := hb.opposite_add (-d.sqrt)
      rw [Double.opposite_opposite] at hflipped
      exact clean_div_opposite hflipped _
    rw [if_pos hd, if_pos hd, hless, hmore, Double.sub_eq_add_opposite]
    exact ascending_swap (h.root_ne_nan (Double.opposite_ne_nan hs)) (h.root_ne_nan hs)
      (clean_ne_negativeZero _) (clean_ne_negativeZero _)
  · rw [if_neg hd, if_neg hd, clean_opposite_div hb]

theorem pairwise_roots (h : Divides a b) (d : Float) : (roots a b d).Pairwise (· ≤ ·) := by
  unfold roots
  split
  · rename_i hd
    have hs := Double.sqrt_ne_nan hd
    rw [Double.sub_eq_add_opposite]
    exact pairwise_ascending (h.root_ne_nan (Double.opposite_ne_nan hs)) (h.root_ne_nan hs)
  · split
    · exact List.pairwise_singleton _ _
    · exact List.Pairwise.nil

end

end Quadratic

end AlgebraDesk

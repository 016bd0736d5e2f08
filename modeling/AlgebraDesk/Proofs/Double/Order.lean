import AlgebraDesk.Proofs.Double.Monotone
import AlgebraDesk.Proofs.Value.Number

/-!
# The order of doubles and integers

Finite doubles are in the order of the fractions that they are, the two zeros being equal, and a
number is compared with another by the exact values of both.  What lies between two finite doubles
is finite, has a double, and keeps its place when that is taken.

* `lt_iff`, `le_iff`, `beq_iff`      the comparisons of finite doubles;
* `distance_swap`, `rational_distance_lt`   the distance of two doubles;
* `Number.value?`, `Number.compare_eq`   the exact value of a number, and how values compare;
* `Number.between_iff`               the numbers between two finite doubles;
* `Number.double?`, `rounds_double`, `double_between`  the double of a number.
-/

namespace AlgebraDesk

namespace Double

open Float.Model (UnpackedFloat)

section
variable {x y : Float}

/-! ## finite doubles -/

theorem rational_eq_iff : rational x = rational y ↔ units x = units y := by
  rw [le_antisymm_iff, rational_le_iff, rational_le_iff, ← le_antisymm_iff]

theorem beq_iff (hx : x.isFinite = true) (hy : y.isFinite = true) :
    (x == y) = true ↔ rational x = rational y := by
  rw [rational_eq_iff]
  obtain ⟨s, c, hc, rfl⟩ := eq_ofCode_of_isFinite hx
  obtain ⟨t, d, hd, rfl⟩ := eq_ofCode_of_isFinite hy
  rw [beq_ofCode hc hd, units_ofCode hc, units_ofCode hd, signed_inj, Magnitude.units_inj,
    units_eq_zero]

theorem beq_iff_compare : (x == y) = true ↔
    UnpackedFloat.compare x.toModel.unpack y.toModel.unpack = some .eq := by
  have hbeq : (x == y) = (UnpackedFloat.compare x.toModel.unpack y.toModel.unpack == some .eq) := rfl
  rw [hbeq, beq_iff_eq]

theorem lt_iff (hx : x.isFinite = true) (hy : y.isFinite = true) :
    x < y ↔ rational x < rational y := by
  refine ⟨fun h => ?_, lt_of_rational_lt hx hy⟩
  by_contra hnot
  rcases lt_or_eq_of_le (not_lt.mp hnot) with hlt | heq
  · exact not_lt_of_lt h (lt_of_rational_lt hy hx hlt)
  · have hsame := beq_iff_compare.mp ((beq_iff hx hy).mpr heq.symm)
    rw [lt_iff_compare, hsame] at h
    cases h

theorem ne_nan_of_isFinite (h : x.isFinite = true) : x ≠ Float.nan := by
  rintro rfl
  cases h

theorem le_iff (hx : x.isFinite = true) (hy : y.isFinite = true) :
    x ≤ y ↔ rational x ≤ rational y := by
  rw [← not_lt, ← lt_iff hy hx]
  refine ⟨fun h hlt => ?_, le_of_not_lt (ne_nan_of_isFinite hx) (ne_nan_of_isFinite hy)⟩
  have hle : (UnpackedFloat.compare x.toModel.unpack y.toModel.unpack).any (·.isLE) = true :=
    of_decide_eq_true h
  rw [compare_swap y.toModel.unpack, lt_iff_compare.mp hlt] at hle
  cases hle

end

/-! ## rounding between two doubles -/

section
variable {u v : Rat} {x y : Float}

theorem abs_signed (r : Bool) (k : Nat) : |((signed r k : Int) : Rat)| = k := by
  cases r <;> simp [signed]

/-- **What is not beyond a finite double is rounded to one.** -/
theorem Rounds.isFinite_of_abs_le (hx : Rounds u x) (hy : y.isFinite = true)
    (h : |u| ≤ |rational y|) : x.isFinite = true := by
  obtain ⟨s, num, den, hden, rfl, rfl⟩ := hx
  obtain ⟨t, d, hd, rfl⟩ := eq_ofCode_of_isFinite hy
  have hpos : (0 : Rat) < den := Nat.cast_pos.mpr hden
  have hone : (0 : Rat) < unitsPerOne := Nat.cast_pos.mpr unitsPerOne_pos
  unfold rational at h
  rw [units_ofCode hd, abs_div, abs_div, abs_signed, abs_signed, abs_of_pos hpos, abs_of_pos hone,
    div_le_div_iff₀ hpos hone] at h
  have hle : nearestCode num den ≤ d := by
    refine nearestCode_le hden ?_
    exact_mod_cast h
  unfold nearest
  rw [Nat.min_eq_left (hle.trans hd.le)]
  exact isFinite_ofCode (hle.trans_lt hd)

theorem Rounds.isFinite_of_between {a b : Float} (hx : Rounds u x) (ha : a.isFinite = true)
    (hb : b.isFinite = true) (hau : rational a ≤ u) (hub : u ≤ rational b) :
    x.isFinite = true := by
  rcases le_total 0 u with hu | hu
  · refine hx.isFinite_of_abs_le hb ?_
    rwa [abs_of_nonneg hu, abs_of_nonneg (hu.trans hub)]
  · refine hx.isFinite_of_abs_le ha ?_
    rwa [abs_of_nonpos hu, abs_of_nonpos (hau.trans hu), neg_le_neg_iff]

/-- A double below a fraction is below what that is rounded to, and the same above. -/
theorem Rounds.le_rational (hx : Rounds u x) (hx' : x.isFinite = true) (hy : y.isFinite = true)
    (h : rational y ≤ u) : rational y ≤ rational x :=
  (rounds_self hy).rational_le hx hy hx' h

theorem Rounds.rational_le_of_le (hx : Rounds u x) (hx' : x.isFinite = true)
    (hy : y.isFinite = true) (h : u ≤ rational y) : rational x ≤ rational y :=
  hx.rational_le (rounds_self hy) hx' hy h

theorem isFinite_zero : (0 : Float).isFinite = true := rfl

theorem Rounds.nonneg (hx : Rounds u x) (hx' : x.isFinite = true) (h : 0 ≤ u) :
    0 ≤ rational x := by
  have hle := hx.le_rational hx' isFinite_zero (by rwa [rational_zero])
  rwa [rational_zero] at hle

end

/-! ## distances -/

section
variable {x y t : Float}

theorem abs_opposite (x : Float) : (-x).abs = x.abs := by
  show (⟨.pack (UnpackedFloat.abs (-x).toModel.unpack)⟩ : Float)
    = ⟨.pack (UnpackedFloat.abs x.toModel.unpack)⟩
  rw [unpack_neg]
  cases x.toModel.unpack <;> rfl

/-- Doubles that are no numbers included. -/
theorem distance_swap (x y : Float) : (y - x).abs = (x - y).abs := by
  rcases isFlipped_sub x y with h | ⟨h, h'⟩
  · rw [h, abs_opposite]
  · rw [h, h']

/-- Neither an infinity nor what is not a number is below anything in absolute value. -/
theorem isFinite_of_abs_lt (h : x.abs < t) : x.isFinite = true := by
  have hless : UnpackedFloat.compare
      (⟨.pack (UnpackedFloat.abs x.toModel.unpack)⟩ : Float).toModel.unpack t.toModel.unpack
        = some .lt := lt_iff_compare.mp h
  show x.toModel.unpack.isFinite = true
  cases hx : x.toModel.unpack with
  | notANumber =>
    have hnone : (⟨.pack (UnpackedFloat.abs .notANumber)⟩ : Float).toModel.unpack
        = .notANumber := by rfl
    rw [hx, hnone] at hless
    cases ht : t.toModel.unpack <;> rw [ht] at hless <;> cases hless
  | infinity s =>
    have hinfinite : (⟨.pack (.infinity .positive)⟩ : Float).toModel.unpack
        = .infinity .positive := by rfl
    rw [hx, UnpackedFloat.abs, hinfinite] at hless
    cases ht : t.toModel.unpack with
    | infinity r =>
      rw [ht] at hless
      cases r <;> cases hless
    | notANumber | zero r | finite r m e hm =>
      rw [ht] at hless
      cases hless
  | zero s => rfl
  | finite s m e hm => rfl

theorem rational_abs (hx : x.isFinite = true) : rational x.abs = |rational x| := by
  obtain ⟨s, c, hc, rfl⟩ := eq_ofCode_of_isFinite hx
  have hone : (0 : Rat) < unitsPerOne := Nat.cast_pos.mpr unitsPerOne_pos
  unfold rational
  rw [abs_ofCode hc, units_ofCode hc, units_ofCode hc, abs_div, abs_of_pos hone, abs_signed]
  rfl

theorem isFinite_abs (hx : x.isFinite = true) : x.abs.isFinite = true := by
  obtain ⟨s, c, hc, rfl⟩ := eq_ofCode_of_isFinite hx
  rw [abs_ofCode hc]
  exact isFinite_ofCode hc

theorem isWhole_abs (hx : x.isFinite = true) : isWhole x.abs = isWhole x := by
  obtain ⟨s, c, hc, rfl⟩ := eq_ofCode_of_isFinite hx
  unfold isWhole
  rw [abs_ofCode hc, form_ofCode hc, form_ofCode hc]

/-- **What is closer than a bound after rounding was so before.** -/
theorem rational_distance_lt (ht : t.isFinite = true) (h : (x - y).abs < t) :
    |rational x - rational y| < rational t := by
  have hdifference : (x - y).isFinite = true := isFinite_of_abs_lt h
  obtain ⟨hx, hy⟩ := isFinite_of_sub hdifference
  have hrounds : Rounds (rational x - rational y) (x - y) := rounds_sub hx hy
  have hless : |rational (x - y)| < rational t := by
    rw [← rational_abs hdifference]
    exact (lt_iff (isFinite_abs hdifference) ht).mp h
  have ht' : (-t).isFinite = true := by rw [isFinite_opposite, ht]
  rw [abs_lt] at hless ⊢
  constructor
  · by_contra hfar
    have hle : rational (x - y) ≤ rational (-t) := by
      refine hrounds.rational_le_of_le hdifference ht' ?_
      rw [rational_opposite ht]
      exact not_lt.mp hfar
    rw [rational_opposite ht] at hle
    exact not_lt.mpr hle hless.1
  · by_contra hfar
    exact not_lt.mpr (hrounds.le_rational hdifference ht (not_lt.mp hfar)) hless.2

end

end Double

namespace Number

open Double (rational units unitsPerOne rounds_self Rounds)

/-- The exact value; infinities have none, nor has what is not a number. -/
def value? : Number → Option Rat
  | .int n => some n
  | .real x => if x.isFinite then some (rational x) else none

/-- The double that a number is taken for. -/
def double? (n : Number) : Option Float := n.toReal.toOption

section
variable {a b n : Number} {u v : Rat} {x y : Float}

/-! ## values -/

theorem value?_real (hx : x.isFinite = true) : (real x).value? = some (rational x) := if_pos hx

theorem of_value?_real (h : (real x).value? = some u) : x.isFinite = true ∧ rational x = u := by
  have hvalue : (if x.isFinite = true then some (rational x) else none) = some u := h
  split at hvalue
  · rename_i hx
    exact ⟨hx, Option.some.inj hvalue⟩
  · cases hvalue

theorem compare_congr {α β : Type} [LinearOrder α] [LinearOrder β] {i j : α} {k l : β}
    (hlt : i < j ↔ k < l) (hgt : j < i ↔ l < k) : Ord.compare i j = Ord.compare k l := by
  rcases lt_trichotomy i j with h | h | h
  · rw [compare_lt_iff_lt.mpr h, compare_lt_iff_lt.mpr (hlt.mp h)]
  · have heq : k = l := le_antisymm (not_lt.mp fun h' => (hgt.mpr h').ne' h)
      (not_lt.mp fun h' => (hlt.mpr h').ne h)
    rw [compare_eq_iff_eq.mpr h, compare_eq_iff_eq.mpr heq]
  · rw [compare_gt_iff_gt.mpr h, compare_gt_iff_gt.mpr (hgt.mp h)]

theorem compareIntReal_eq (n : Int) (hx : x.isFinite = true) :
    compareIntReal n x = some (Ord.compare (n : Rat) (rational x)) := by
  obtain ⟨s, c, hc, rfl⟩ := Double.eq_ofCode_of_isFinite hx
  have hone : (0 : Rat) < unitsPerOne := Nat.cast_pos.mpr Double.unitsPerOne_pos
  unfold compareIntReal rational intUnits
  rw [Double.form_ofCode hc, Double.units_ofCode hc]
  refine congrArg some (compare_congr ?_ ?_)
  · rw [lt_div_iff₀ hone]
    exact_mod_cast Iff.rfl
  · rw [div_lt_iff₀ hone]
    exact_mod_cast Iff.rfl

theorem compare_real (x y : Float) : (real x).compare (real y) =
    if x < y then some .lt else if y < x then some .gt else if x == y then some .eq else none := rfl

/-- **Numbers compare as their values.** -/
theorem compare_eq (ha : a.value? = some u) (hb : b.value? = some v) :
    a.compare b = some (Ord.compare u v) := by
  cases a with
  | int m =>
    obtain rfl := Option.some.inj ha
    cases b with
    | int n =>
      obtain rfl := Option.some.inj hb
      exact congrArg some (compare_congr Int.cast_lt.symm Int.cast_lt.symm)
    | real y =>
      obtain ⟨hy, rfl⟩ := of_value?_real hb
      exact compareIntReal_eq m hy
  | real x =>
    obtain ⟨hx, rfl⟩ := of_value?_real ha
    cases b with
    | int n =>
      obtain rfl := Option.some.inj hb
      show (compareIntReal n x).map Ordering.swap = _
      rw [compareIntReal_eq n hx, Option.map_some, ← Std.OrientedOrd.eq_swap]
    | real y =>
      obtain ⟨hy, rfl⟩ := of_value?_real hb
      rw [compare_real]
      rcases lt_trichotomy (rational x) (rational y) with h | h | h
      · rw [if_pos ((Double.lt_iff hx hy).mpr h), compare_lt_iff_lt.mpr h]
      · rw [if_neg (mt (Double.lt_iff hx hy).mp h.not_lt),
          if_neg (mt (Double.lt_iff hy hx).mp h.not_gt), if_pos ((Double.beq_iff hx hy).mpr h),
          compare_eq_iff_eq.mpr h]
      · rw [if_neg (mt (Double.lt_iff hx hy).mp h.not_gt), if_pos ((Double.lt_iff hy hx).mpr h),
          compare_gt_iff_gt.mpr h]

theorem lt_iff (ha : a.value? = some u) (hb : b.value? = some v) : a.lt b = true ↔ u < v := by
  unfold lt
  rw [compare_eq ha hb, beq_iff_eq, Option.some_inj, compare_lt_iff_lt]

theorem le_iff (ha : a.value? = some u) (hb : b.value? = some v) : a.le b = true ↔ u ≤ v := by
  unfold le
  rw [compare_eq ha hb, Bool.or_eq_true, beq_iff_eq, beq_iff_eq, Option.some_inj, Option.some_inj,
    compare_lt_iff_lt, compare_eq_iff_eq, le_iff_lt_or_eq]

/-! ## numbers between two doubles -/

theorem le_of_lt (h : a.lt b = true) : a.le b = true := by
  unfold le
  rw [show (a.compare b == some .lt) = true from h, Bool.true_or]

theorem of_le_real (h : (real x).le (real y) = true) : x < y ∨ (x == y) = true := by
  unfold le at h
  rw [compare_real] at h
  by_cases hlt : x < y
  · exact .inl hlt
  · rw [if_neg hlt] at h
    by_cases hgt : y < x
    · rw [if_pos hgt] at h
      cases h
    · rw [if_neg hgt] at h
      by_cases heq : (x == y) = true
      · exact .inr heq
      · rw [if_neg heq] at h
        cases h

/-- Between two numbers that are finite there is no other. -/
theorem isFinite_of_between (hx : x.isFinite = true) (hy : y.isFinite = true) {z : Float}
    (hlow : (real x).le (real z) = true) (hhigh : (real z).le (real y) = true) :
    z.isFinite = true := by
  have hleft := of_le_real hlow
  have hright := of_le_real hhigh
  rw [Double.lt_iff_compare, Double.beq_iff_compare] at hleft hright
  have hx' : x.toModel.unpack.isFinite = true := hx
  have hy' : y.toModel.unpack.isFinite = true := hy
  show z.toModel.unpack.isFinite = true
  generalize x.toModel.unpack = p at hleft hx'
  generalize y.toModel.unpack = q at hright hy'
  cases hz : z.toModel.unpack with
  | zero s => rfl
  | finite s m e hm => rfl
  | notANumber =>
    rw [hz] at hright
    rcases hright with h | h <;> cases h
  | infinity s =>
    rw [hz] at hleft hright
    cases s with
    | positive =>
      cases q with
      | notANumber | infinity => cases hy'
      | zero | finite => rcases hright with h | h <;> cases h
    | negative =>
      cases p with
      | notANumber | infinity => cases hx'
      | zero | finite => rcases hleft with h | h <;> cases h

/-- **What lies between two finite doubles** has a value, which lies between theirs. -/
theorem between_iff (hx : x.isFinite = true) (hy : y.isFinite = true) :
    (real x).le n = true ∧ n.le (real y) = true ↔
      ∃ v, n.value? = some v ∧ rational x ≤ v ∧ v ≤ rational y := by
  constructor
  · rintro ⟨hlow, hhigh⟩
    obtain ⟨v, hv⟩ : ∃ v, n.value? = some v := by
      cases n with
      | int k => exact ⟨k, rfl⟩
      | real z => exact ⟨_, value?_real (isFinite_of_between hx hy hlow hhigh)⟩
    exact ⟨v, hv, (le_iff (value?_real hx) hv).mp hlow, (le_iff hv (value?_real hy)).mp hhigh⟩
  · rintro ⟨v, hv, hlow, hhigh⟩
    exact ⟨(le_iff (value?_real hx) hv).mpr hlow, (le_iff hv (value?_real hy)).mpr hhigh⟩

/-! ## the double of a number -/

theorem double?_int (k : Int) : (int k).double? = Double.ofInt? k := by
  have hreal : (int k).toReal = (Double.ofInt? k).elim (.error .tooLarge) .ok := rfl
  rw [double?, hreal]
  cases Double.ofInt? k <;> rfl

theorem toReal_of_double? (h : n.double? = some x) : n.toReal = .ok x := by
  unfold double? at h
  cases hreal : n.toReal with
  | ok y =>
    rw [hreal] at h
    exact congrArg Except.ok (Option.some.inj h)
  | error f =>
    rw [hreal] at h
    cases h

/-- **The double of a number is its value, rounded.** -/
theorem rounds_double (hv : n.value? = some v) (hx : n.double? = some x) :
    Rounds v x ∧ x.isFinite = true := by
  cases n with
  | real z =>
    obtain ⟨hz, rfl⟩ := of_value?_real hv
    obtain rfl : z = x := Option.some.inj hx
    exact ⟨rounds_self hz, hz⟩
  | int k =>
    obtain rfl := Option.some.inj hv
    rw [double?_int, Double.ofInt?] at hx
    split at hx
    · rename_i hfinite
      obtain rfl := Option.some.inj hx
      exact ⟨Double.rounds_integer k, hfinite⟩
    · cases hx

/-- Taking the doubles of numbers keeps their order. -/
theorem double?_mono {m : Number} (hu : m.value? = some u) (hv : n.value? = some v)
    (hx : m.double? = some x) (hy : n.double? = some y) (h : u ≤ v) : rational x ≤ rational y := by
  obtain ⟨hxr, hxf⟩ := rounds_double hu hx
  obtain ⟨hyr, hyf⟩ := rounds_double hv hy
  exact hxr.rational_le hyr hxf hyf h

theorem exists_double (hv : n.value? = some v) (hx : x.isFinite = true) (hy : y.isFinite = true)
    (hlow : rational x ≤ v) (hhigh : v ≤ rational y) :
    ∃ z, n.double? = some z ∧ z.isFinite = true ∧ rational x ≤ rational z ∧
      rational z ≤ rational y := by
  obtain ⟨z, hz⟩ : ∃ z, n.double? = some z := by
    cases n with
    | real z => exact ⟨z, rfl⟩
    | int k =>
      obtain rfl := Option.some.inj hv
      have hfinite := (Double.rounds_integer k).isFinite_of_between hx hy hlow hhigh
      exact ⟨Double.integer k, (double?_int k).trans (if_pos hfinite)⟩
  obtain ⟨hrounds, hfinite⟩ := rounds_double hv hz
  exact ⟨z, hz, hfinite, hrounds.le_rational hfinite hx hlow,
    hrounds.rational_le_of_le hfinite hy hhigh⟩

/-- A number between two finite doubles keeps its place when its double is taken. -/
theorem double_between (hx : x.isFinite = true) (hy : y.isFinite = true)
    (h : (real x).le n = true ∧ n.le (real y) = true) :
    ∃ z, n.double? = some z ∧ z.isFinite = true ∧ rational x ≤ rational z ∧
      rational z ≤ rational y := by
  obtain ⟨v, hv, hlow, hhigh⟩ := (between_iff hx hy).mp h
  exact exists_double hv hx hy hlow hhigh

theorem between_zero_iff (hx : x.isFinite = true) (hy : y.isFinite = true) :
    (real x).le (int 0) = true ∧ (int 0).le (real y) = true ↔ x ≤ 0 ∧ 0 ≤ y := by
  have hvalue : (int 0).value? = some 0 := by
    rw [value?, Int.cast_zero]
  rw [Double.le_iff hx Double.isFinite_zero, Double.le_iff Double.isFinite_zero hy,
    Double.rational_zero, le_iff (value?_real hx) hvalue, le_iff hvalue (value?_real hy)]

end

end Number

end AlgebraDesk

import AlgebraDesk.Proofs.Double.Rounded

/-!
# Integers among the doubles

Every integer of magnitude up to 2 ^ 53 is a double, and sums that stay in this range are exact.

* `integer`          the double nearest to an integer;
* `IsSmall`          the range;
* `nearest_small`    a small number is rounded to itself;
* `ofInt?_eq_none_iff`   the integers that have no double;
* `foldl_add_small`  the sum of small numbers, when no partial sum leaves the range;
* `quotient?_eq`     a quotient of natural numbers that stays in the range.
-/

namespace AlgebraDesk.Double

open Decimal (twoTo twoTo_pos twoTo_zero twoTo_succ)

/-- A mantissa of at most 53 bits has a code at every scale. -/
theorem exists_code {mantissa : Nat} (h : mantissa ≤ twoTo 53) (scale : Nat) :
    ∃ c, (Magnitude.ofCode c).units = mantissa * twoTo scale := by
  induction scale generalizing mantissa with
  | zero => exact ⟨_, Magnitude.units_ofCode h (.inl rfl)⟩
  | succ scale ih =>
    rcases Nat.lt_or_ge mantissa (twoTo 52) with hlow | hfull
    · have hdouble : mantissa * 2 ≤ twoTo 53 := by
        rw [twoTo_52] at hlow
        rw [twoTo_53]
        omega
      obtain ⟨c, hc⟩ := ih hdouble
      refine ⟨c, ?_⟩
      rw [hc, twoTo_succ, Nat.mul_assoc, Nat.mul_comm 2]
    · exact ⟨_, Magnitude.units_ofCode h (.inr hfull)⟩

theorem units_infinityCode : (Magnitude.ofCode infinityCode).units = twoTo 1024 * unitsPerOne := by
  have hcode : infinityCode = 2046 * twoTo 52 + twoTo 52 := by decide
  rw [hcode, units_binade (j := 1024) (by decide)]

theorem units_oneCode : (Magnitude.ofCode oneCode).units = 1 * unitsPerOne := by
  have hcode : oneCode = 1022 * twoTo 52 + twoTo 52 := by decide
  rw [hcode, units_binade (j := 0) (by decide), twoTo_zero]

theorem units_zeroCode : (Magnitude.ofCode 0).units = 0 * unitsPerOne := by
  rw [Magnitude.units_ofCode_zero, Nat.zero_mul]

/-- The double nearest to an integer. -/
def integer (n : Int) : Float := nearest (n < 0) n.natAbs 1

/-- The integers that are doubles one after the other. -/
def IsSmall (n : Int) : Prop := n.natAbs ≤ twoTo 53

instance (n : Int) : Decidable (IsSmall n) := inferInstanceAs (Decidable (_ ≤ _))

section
variable {m n : Int}

theorem signed_natAbs (n : Int) : signed (n < 0) n.natAbs = n := by
  unfold signed
  by_cases hn : n < 0
  · rw [if_pos (decide_eq_true hn)]
    omega
  · rw [if_neg (by simpa using hn)]
    omega

/-- The code of a small natural number, which is rounded to itself under both signs. -/
theorem nearest_small {k : Nat} (h : k ≤ twoTo 53) : ∃ c, c < infinityCode ∧
    (∀ negative, nearest negative k 1 = ofCode negative c) ∧
    (Magnitude.ofCode c).units = k * unitsPerOne := by
  obtain ⟨c, hc⟩ := exists_code h unitExponent
  rw [← unitsPerOne_eq] at hc
  have hrange : k < twoTo 1024 := Nat.lt_of_le_of_lt h (twoTo_lt_twoTo (by decide))
  have hlt : c < infinityCode := by
    rw [← Magnitude.units_lt_units, hc, units_infinityCode]
    exact Nat.mul_lt_mul_of_pos_right hrange unitsPerOne_pos
  have hnearest : nearestCode k 1 = c :=
    nearestCode_of_units Nat.one_pos ((Nat.mul_one _).trans hc)
  refine ⟨c, hlt, fun negative => ?_, hc⟩
  unfold nearest
  rw [hnearest, Nat.min_eq_left (Nat.le_of_lt hlt)]

theorem integer_eq (h : IsSmall n) : ∃ c, c < infinityCode ∧ integer n = ofCode (n < 0) c ∧
    (Magnitude.ofCode c).units = n.natAbs * unitsPerOne := by
  obtain ⟨c, hlt, hnearest, hunits⟩ := nearest_small h
  exact ⟨c, hlt, hnearest _, hunits⟩

theorem isFinite_integer (h : IsSmall n) : (integer n).isFinite = true := by
  obtain ⟨c, hc, he, _⟩ := integer_eq h
  rw [he]
  exact isFinite_ofCode hc

theorem code_ne_zero {c k : Nat} (hu : (Magnitude.ofCode c).units = k * unitsPerOne)
    (hk : k ≠ 0) : c ≠ 0 := by
  rintro rfl
  rw [Magnitude.units_ofCode_zero] at hu
  have hpos : 0 < k * unitsPerOne := Nat.mul_pos (Nat.pos_of_ne_zero hk) unitsPerOne_pos
  omega

theorem code_ne_zero_of_neg {c : Nat} (hu : (Magnitude.ofCode c).units = n.natAbs * unitsPerOne)
    (hn : n < 0) : c ≠ 0 :=
  code_ne_zero hu (Int.natAbs_ne_zero.mpr (Int.ne_of_lt hn))

/-- Zero, one and the sign of a small integer can be told from its code. -/
theorem beq_code_zero {c : Nat} (hu : (Magnitude.ofCode c).units = n.natAbs * unitsPerOne) :
    (c == 0) = (n == 0) := by
  rw [Bool.eq_iff_iff, beq_iff_eq, beq_iff_eq, ← Magnitude.units_inj, hu,
    Magnitude.units_ofCode_zero, Nat.mul_eq_zero, Int.natAbs_eq_zero]
  exact or_iff_left (Nat.ne_of_gt unitsPerOne_pos)

theorem beq_code_one {c : Nat} (hu : (Magnitude.ofCode c).units = n.natAbs * unitsPerOne) :
    (c == oneCode) = (n.natAbs == 1) := by
  rw [Bool.eq_iff_iff, beq_iff_eq, beq_iff_eq, ← Magnitude.units_inj, hu, units_oneCode,
    Nat.mul_left_inj (Nat.ne_of_gt unitsPerOne_pos)]

theorem negative_code {c : Nat} (hu : (Magnitude.ofCode c).units = n.natAbs * unitsPerOne) :
    (decide (n < 0) && c != 0) = decide (n < 0) := by
  rw [Bool.eq_iff_iff, Bool.and_eq_true, bne_iff_ne, decide_eq_true_iff]
  exact ⟨And.left, fun hn => ⟨hn, code_ne_zero_of_neg hu hn⟩⟩

theorem integer_ne_negativeZero (h : IsSmall n) : integer n ≠ -0 := by
  obtain ⟨c, hc, he, hu⟩ := integer_eq h
  rw [he, negativeZero_eq_ofCode, ne_eq, ofCode_inj hc (by decide)]
  exact fun ⟨hneg, hzero⟩ => code_ne_zero_of_neg hu (of_decide_eq_true hneg) hzero

theorem units_integer (h : IsSmall n) : units (integer n) = n * unitsPerOne := by
  obtain ⟨c, hc, he, hu⟩ := integer_eq h
  rw [he, units_ofCode hc, hu, ← signed_mul]
  rw [signed_natAbs]

theorem ofInt?_eq (h : IsSmall n) : ofInt? n = some (integer n) := if_pos (isFinite_integer h)

/-- Integers of this magnitude or a greater one are nearer to 2 ^ 1024 than to any double, or as
near. -/
def tooLargeFrom : Nat := twoTo 1024 - twoTo 970

theorem infinityCode_le_nearestCode_iff (k : Nat) :
    infinityCode ≤ nearestCode k 1 ↔ tooLargeFrom ≤ k :=
  le_nearestCode_iff Nat.one_pos (by decide +kernel) (by decide +kernel) k

/-- **Which integers have no double.** -/
theorem ofInt?_eq_none_iff (n : Int) : ofInt? n = none ↔ tooLargeFrom ≤ n.natAbs := by
  have hinfinite : ∀ negative, (ofCode negative infinityCode).isFinite = false := by
    intro negative
    cases negative <;> rfl
  unfold ofInt? nearest
  rw [← infinityCode_le_nearestCode_iff]
  rcases Nat.lt_or_ge (nearestCode n.natAbs 1) infinityCode with hlt | hge
  · rw [Nat.min_eq_left (Nat.le_of_lt hlt)]
    refine iff_of_false ?_ (Nat.not_le.mpr hlt)
    dsimp only
    rw [if_pos (isFinite_ofCode hlt)]
    exact Option.some_ne_none _
  · rw [Nat.min_eq_right hge]
    refine iff_of_true ?_ hge
    dsimp only
    rw [hinfinite]
    rfl

theorem whole_of_units {m : Magnitude} {k : Nat} (hu : m.units = k * unitsPerOne) :
    m.whole = k := by
  unfold Magnitude.whole
  rw [hu]
  exact Nat.mul_div_cancel _ unitsPerOne_pos

/-- A small integer is what its double stands for. -/
theorem truncate?_integer (h : IsSmall n) : truncate? (integer n) = some n := by
  obtain ⟨c, hc, he, hu⟩ := integer_eq h
  rw [he]
  unfold truncate?
  rw [form_ofCode hc]
  show some (signed (n < 0) (Magnitude.ofCode c).whole) = some n
  rw [whole_of_units hu, signed_natAbs]

/-! ## sums -/

/-- **A small number is added exactly**, also when it is a zero with a sign. -/
theorem integer_add_nearest (hm : IsSmall m) {negative : Bool} {k : Nat} (hk : k ≤ twoTo 53)
    (h : IsSmall (m + signed negative k)) :
    integer m + nearest negative k 1 = integer (m + signed negative k) := by
  obtain ⟨c, hlt, hnearest, hunits⟩ := nearest_small hk
  rw [hnearest]
  refine add_eq_of_units (isFinite_integer hm) (isFinite_ofCode hlt) (isFinite_integer h)
    (integer_ne_negativeZero hm) (integer_ne_negativeZero h) ?_
  rw [units_integer hm, units_integer h, units_ofCode hlt, hunits, ← signed_mul, Int.add_mul]

/-- Signed numbers, as they are added one after the other. -/
theorem foldl_add_small {ks : List (Bool × Nat)} (hks : ∀ k ∈ ks, k.2 ≤ twoTo 53)
    (h : ∀ i, IsSmall (m + ((ks.take i).map fun k => signed k.1 k.2).sum)) :
    (ks.map fun k => nearest k.1 k.2 1).foldl (· + ·) (integer m)
      = integer (m + (ks.map fun k => signed k.1 k.2).sum) := by
  induction ks generalizing m with
  | nil =>
    show integer m = integer (m + 0)
    rw [Int.add_zero]
  | cons k ks ih =>
    rw [List.forall_mem_cons] at hks
    have hm : IsSmall m := by
      have hzero := h 0
      rwa [List.take_zero, List.map_nil, List.sum_nil, Int.add_zero] at hzero
    have hfrom : ∀ i, IsSmall (m + signed k.1 k.2
        + ((ks.take i).map fun k => signed k.1 k.2).sum) := by
      intro i
      have hnext := h (i + 1)
      rwa [List.take_succ_cons, List.map_cons, List.sum_cons, ← Int.add_assoc] at hnext
    have hfirst : IsSmall (m + signed k.1 k.2) := by
      have hzero := hfrom 0
      rwa [List.take_zero, List.map_nil, List.sum_nil, Int.add_zero] at hzero
    rw [List.map_cons, List.foldl_cons, integer_add_nearest hm hks.1 hfirst, List.map_cons,
      List.sum_cons, ← Int.add_assoc]
    exact ih hks.2 hfrom

theorem integer_zero : integer 0 = 0 := by
  show nearest false 0 1 = 0
  unfold nearest
  rw [nearestCode_zero Nat.one_pos, Nat.zero_min, zero_eq_ofCode]

/-! ## quotients -/

/-- A quotient that does not pass a small number has a finite double. -/
theorem isFinite_nearest {num den k : Nat} (hden : 0 < den) (hk : k ≤ twoTo 53)
    (h : num ≤ k * den) (negative : Bool) : (nearest negative num den).isFinite = true := by
  obtain ⟨c, hlt, _, hunits⟩ := nearest_small hk
  have hle : nearestCode num den ≤ c := by
    refine nearestCode_le hden ?_
    rw [hunits, Nat.mul_right_comm]
    exact Nat.mul_le_mul_right _ h
  unfold nearest
  exact isFinite_ofCode (Nat.lt_of_le_of_lt (Nat.min_le_left _ _) (Nat.lt_of_le_of_lt hle hlt))

theorem quotient?_eq {num den k : Nat} (hden : 0 < den) (hk : k ≤ twoTo 53)
    (h : num ≤ k * den) : quotient? num den = some (nearest false num den) := by
  have hsign : ((decide ((num : Int) < 0)) != (decide ((den : Int) < 0))) = false := by
    rw [decide_eq_false (Int.not_lt.mpr (Int.natCast_nonneg num)),
      decide_eq_false (Int.not_lt.mpr (Int.natCast_nonneg den))]
    rfl
  unfold quotient?
  rw [hsign]
  exact if_pos (isFinite_nearest hden hk h false)

end

end AlgebraDesk.Double

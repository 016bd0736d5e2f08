import AlgebraDesk.Proofs.Double.Monotone
import AlgebraDesk.Proofs.Double.Root
import AlgebraDesk.Proofs.Quadratic.Flipped

/-!
# Quadratics with integer coefficients

As long as nothing on the way passes 2 ^ 53, the discriminant of integer coefficients is the integer
that it should be, and its sign is told without a mistake.  When it is a perfect square the roots
are quotients of integers, which come out exact when they are halves of integers.

* `IsExact`               coefficients whose discriminant is computed without rounding;
* `discriminant_integer`  the discriminant;
* `exists_halves`, `clean_quotient`     halves of integers and integers as quotients;
* `IsFactored`            a quadratic with integer roots, none of whose numbers is too large;
* `roots_factored`, `vertex_factored`   its roots and its axis.
-/

namespace AlgebraDesk.Quadratic

open Decimal (twoTo)
open Double (IsSmall integer nearest signed)

section
variable {a b c m n : Int}

/-! ## the discriminant -/

/-- Every product and sum in the discriminant is small. -/
structure IsExact (a b c : Int) : Prop where
  small_a : IsSmall a
  small_b : IsSmall b
  small_c : IsSmall c
  four : IsSmall (4 * a)
  product : IsSmall (4 * a * c)
  square : IsSmall (b * b)
  discriminant : IsSmall (b * b - 4 * a * c)

theorem natAbs_mul_le {M N : Nat} (hm : m.natAbs ≤ M) (hn : n.natAbs ≤ N) :
    (m * n).natAbs ≤ M * N := by
  rw [Int.natAbs_mul]
  exact Nat.mul_le_mul hm hn

theorem IsExact.of_le {A B C : Nat} (ha : a.natAbs ≤ A) (hb : b.natAbs ≤ B) (hc : c.natAbs ≤ C)
    (hA : 4 * A ≤ twoTo 53) (hC : C ≤ twoTo 53) (hlimit : B * B + 4 * A * C ≤ twoTo 53) :
    IsExact a b c := by
  have hfour : (4 * a).natAbs ≤ 4 * A := by omega
  have hproduct := natAbs_mul_le hfour hc
  have hsquare := natAbs_mul_le hb hb
  have hB := Nat.le_mul_self B
  constructor <;> unfold IsSmall <;> omega

/-- Zero loses its sign and nothing else changes. -/
theorem clean_nearest {s : Bool} {k : Nat} (hk : k ≤ twoTo 53) :
    clean (nearest s k 1) = integer (signed s k) := by
  have hzero : (0.0 : Float) = integer 0 := Double.integer_zero.symm
  have hsmall : IsSmall (0 + signed s k) := by
    unfold IsSmall
    rwa [Int.zero_add, Double.natAbs_signed]
  show nearest s k 1 + 0.0 = _
  rw [hzero, Double.sum_swap, Double.integer_add_nearest (by decide) hk hsmall, Int.zero_add]

theorem four_eq_integer : (4 : Float) = integer 4 := by decide +kernel

theorem two_eq_integer : (2 : Float) = integer 2 := by decide +kernel

/-- The product of small integers, with the sign that a zero gets. -/
theorem integer_mul (hm : IsSmall m) (hn : IsSmall n) :
    integer m * integer n = nearest (decide (m < 0) != decide (n < 0)) (m * n).natAbs 1 := by
  rw [Int.natAbs_mul]
  exact Double.mul_nearest hm hn

theorem signed_product (m n : Int) :
    signed (decide (m < 0) != decide (n < 0)) (m * n).natAbs = m * n := by
  rw [Int.natAbs_mul, ← Double.signed_mul_signed, Double.signed_natAbs, Double.signed_natAbs]

/-- A positive factor does not change the sign. -/
theorem integer_mul_of_pos (hm : IsSmall m) (hn : IsSmall n) (hpos : 0 < m) :
    integer m * integer n = integer (m * n) := by
  have hsign : (decide (m < 0) != decide (n < 0)) = decide (m * n < 0) := by
    rw [decide_eq_false (Int.not_lt.mpr (Int.le_of_lt hpos)), Bool.false_bne, decide_eq_decide,
      mul_neg_iff]
    omega
  rw [integer_mul hm hn, hsign]
  rfl

theorem square_integer (hb : IsSmall b) : integer b * integer b = integer (b * b) := by
  have hsign : decide (b * b < 0) = false := decide_eq_false (Int.not_lt.mpr (mul_self_nonneg b))
  rw [integer_mul hb hb, bne_self_eq_false, ← hsign]
  rfl

/-- **The discriminant is exact.** -/
theorem discriminant_integer (h : IsExact a b c) :
    discriminant (integer a) (integer b) (integer c) = integer (b * b - 4 * a * c) := by
  unfold discriminant
  rw [square_integer h.small_b, four_eq_integer,
    integer_mul_of_pos (by decide) h.small_a (by decide), integer_mul h.four h.small_c,
    Double.sub_eq_add_opposite, Double.opposite_nearest,
    Double.integer_add_nearest h.square h.product]
  · rw [Double.signed_not, signed_product, Int.sub_eq_add_neg]
  · rw [Double.signed_not, signed_product, ← Int.sub_eq_add_neg]
    exact h.discriminant

/-! ## quotients of integers -/

/-- A quotient by twice an integer, as a number of halves. -/
theorem exists_halves {s : Bool} {j : Nat} {k v : Int} (hj : j ≤ twoTo 53) (hk : k ≠ 0)
    (hk' : IsSmall (2 * k)) (h : signed s j = k * v) :
    ∃ t, nearest s j 1 / (2 * integer k) = nearest t v.natAbs 2 ∧ signed t v.natAbs = v := by
  have hsmall : IsSmall k := by
    unfold IsSmall at hk' ⊢
    omega
  have hpos : 0 < (2 * k).natAbs := by omega
  have habs : j = k.natAbs * v.natAbs := by
    rw [← Double.natAbs_signed s j, h, Int.natAbs_mul]
  refine ⟨s != decide (2 * k < 0), ?_, ?_⟩
  · rw [two_eq_integer, integer_mul_of_pos (by decide) hsmall (by decide)]
    show nearest s j 1 / nearest _ (2 * k).natAbs 1 = _
    rw [Double.div_nearest hj hk' hpos]
    refine Double.nearest_congr hpos (by decide) ?_
    rw [habs, Int.natAbs_mul]
    ring
  · have htwo : decide (2 * k < 0) = decide (k < 0) := by
      rw [decide_eq_decide]
      omega
    -- the square of the divisor is a factor of both sides
    have hsquare : (k.natAbs * k.natAbs : Nat) ≠ (0 : Int) := by
      rw [Int.natAbs_mul_self]
      exact mul_self_ne_zero.mpr hk
    refine mul_right_cancel₀ hsquare ?_
    calc signed (s != decide (2 * k < 0)) v.natAbs * (k.natAbs * k.natAbs : Nat)
        = signed (s != decide (k < 0)) (j * k.natAbs) := by
          rw [htwo, Double.signed_mul, habs]
          congr 1
          ring
      _ = signed s j * signed (decide (k < 0)) k.natAbs := (Double.signed_mul_signed _ _ _ _).symm
      _ = v * (k.natAbs * k.natAbs : Nat) := by
          rw [h, Double.signed_natAbs, Int.natAbs_mul_self]
          ring

theorem isFinite_clean {x : Float} (hx : x.isFinite = true) : (clean x).isFinite = true := by
  obtain ⟨s, c, hc, rfl⟩ := Double.eq_ofCode_of_isFinite hx
  rw [clean_ofCode hc]
  exact Double.isFinite_ofCode hc

theorem rational_clean {x : Float} (hx : x.isFinite = true) :
    Double.rational (clean x) = Double.rational x := by
  obtain ⟨s, c, hc, rfl⟩ := Double.eq_ofCode_of_isFinite hx
  unfold Double.rational
  rw [clean_ofCode hc]
  by_cases hzero : c = 0
  · subst hzero
    rw [Double.units_zero, Double.units_zero]
  · rw [bne_iff_ne.mpr hzero, Bool.and_true]

/-- **A quotient that is an integer comes out exact**, and a zero without a sign. -/
theorem clean_quotient {s : Bool} {j : Nat} {k r : Int} (hj : j ≤ twoTo 53) (hk : k ≠ 0)
    (hk' : IsSmall (2 * k)) (hr : IsSmall r) (h : signed s j = 2 * k * r) :
    clean (nearest s j 1 / (2 * integer k)) = integer r := by
  have hhalves : signed s j = k * (2 * r) := by
    rw [h]
    ring
  obtain ⟨t, hquotient, hsign⟩ := exists_halves hj hk hk' hhalves
  have hr' : signed t r.natAbs = r := by
    rw [Int.natAbs_mul, Nat.mul_comm, ← Double.signed_mul] at hsign
    have e : signed t r.natAbs * ((2 : Int).natAbs : Nat) = r * 2 := by rw [hsign, Int.mul_comm]
    exact Int.eq_of_mul_eq_mul_right (by decide) e
  have hwhole : nearest t (2 * r).natAbs 2 = nearest t r.natAbs 1 := by
    refine Double.nearest_congr (by decide) Nat.one_pos ?_
    rw [Int.natAbs_mul, Nat.mul_one, Nat.mul_comm]
    rfl
  rw [hquotient, hwhole, clean_nearest hr, hr']

/-! ## integer roots -/

/-- The negation of an integer, with the sign that a zero gets. -/
theorem opposite_integer (n : Int) :
    ∃ s, -integer (-n) = nearest s n.natAbs 1 ∧ signed s n.natAbs = n := by
  refine ⟨!decide (-n < 0), ?_, ?_⟩
  · unfold integer
    rw [Double.opposite_nearest, Int.natAbs_neg]
  · rw [Double.signed_not, ← Int.natAbs_neg n, Double.signed_natAbs, Int.neg_neg]

theorem ascending_integer (hm : IsSmall m) (hn : IsSmall n) :
    ascending (integer m) (integer n) = [integer (min m n), integer (max m n)] := by
  unfold ascending
  by_cases h : n < m
  · have hle := Int.le_of_lt h
    rw [if_pos ((Double.integer_lt_iff hn hm).mpr h), Int.min_eq_right hle, Int.max_eq_left hle]
  · have hle := Int.not_lt.mp h
    rw [if_neg (mt (Double.integer_lt_iff hn hm).mp h), Int.min_eq_left hle, Int.max_eq_right hle]

/-- One of the two roots: an integer when the numerator is a multiple of the denominator. -/
theorem clean_root {t : Bool} {j : Nat} {k r : Int} (hn : IsSmall n) (hj : j ≤ twoTo 53)
    (hj0 : j ≠ 0) (hk : k ≠ 0) (hk' : IsSmall (2 * k)) (hr : IsSmall r)
    (hr' : IsSmall (2 * k * r)) (h : n + signed t j = 2 * k * r) :
    clean ((-integer (-n) + nearest t j 1) / (2 * integer k)) = integer r := by
  obtain ⟨s, hopposite, hsign⟩ := opposite_integer n
  rw [hopposite, Double.add_nearest hn hj (.inr hj0), hsign, h]
  exact clean_quotient hr' hk hk' hr (Double.signed_natAbs _)

/-- The polynomial `k * (x - p) * (x - q)`, when nothing on the way to its roots is too large. -/
structure IsFactored (k p q : Int) : Prop where
  k_ne_zero : k ≠ 0
  exact : IsExact k (-(k * (p + q))) (k * p * q)
  small_p : IsSmall p
  small_q : IsSmall q
  small_sum : IsSmall (p + q)
  double : IsSmall (2 * k)
  double_p : IsSmall (2 * k * p)
  double_q : IsSmall (2 * k * q)
  square : (k * (p - q)).natAbs * (k * (p - q)).natAbs < twoTo 53

variable {k p q : Int}

/-- A range in which everything is small. -/
theorem IsFactored.of_le (hk : k ≠ 0) (hk' : k.natAbs ≤ 2 ^ 12) (hp : p.natAbs ≤ 2 ^ 12)
    (hq : q.natAbs ≤ 2 ^ 12) : IsFactored k p q := by
  have hsum : (p + q).natAbs ≤ 2 ^ 13 := by omega
  have hb : (-(k * (p + q))).natAbs ≤ 2 ^ 12 * 2 ^ 13 := by
    rw [Int.natAbs_neg]
    exact natAbs_mul_le hk' hsum
  have hd : (k * (p - q)).natAbs ≤ 2 ^ 12 * 2 ^ 13 := natAbs_mul_le hk' (by omega)
  have hdouble : (2 * k).natAbs ≤ 2 ^ 13 := by omega
  have hlimit : 2 ^ 13 * 2 ^ 12 ≤ twoTo 53 := by decide
  exact {
    k_ne_zero := hk
    exact := .of_le hk' hb (natAbs_mul_le (natAbs_mul_le hk' hp) hq) (by decide) (by decide)
      (by decide)
    small_p := Nat.le_trans hp (by decide)
    small_q := Nat.le_trans hq (by decide)
    small_sum := Nat.le_trans hsum (by decide)
    double := Nat.le_trans hdouble (by decide)
    double_p := Nat.le_trans (natAbs_mul_le hdouble hp) hlimit
    double_q := Nat.le_trans (natAbs_mul_le hdouble hq) hlimit
    square := Nat.lt_of_le_of_lt (Nat.mul_le_mul hd hd) (by decide) }

theorem IsFactored.small_numerator (h : IsFactored k p q) : IsSmall (k * (p + q)) := by
  have hneg : (-(k * (p + q))).natAbs ≤ twoTo 53 := h.exact.small_b
  rwa [Int.natAbs_neg] at hneg

theorem roots_repeated (h : IsFactored k p p) :
    roots (integer k) (integer (-(k * (p + p)))) (integer 0) = [integer p] := by
  have hpos : ¬ integer 0 > 0 := mt (Double.integer_pos_iff (by decide)).mp (Int.lt_irrefl 0)
  have hzero : (integer 0 == 0) = true := Double.integer_beq_zero (by decide)
  obtain ⟨s, hopposite, hsign⟩ := opposite_integer (k * (p + p))
  have hmultiple : signed s (k * (p + p)).natAbs = 2 * k * p := by
    rw [hsign]
    ring
  unfold roots
  rw [if_neg hpos, if_pos hzero, hopposite,
    clean_quotient h.small_numerator h.k_ne_zero h.double h.small_p hmultiple]

/-- Which formula gives which root depends on the sign of `k * (p - q)`. -/
theorem roots_apart (h : IsFactored k p q) (hpq : p ≠ q) :
    roots (integer k) (integer (-(k * (p + q)))) (integer (k * (p - q) * (k * (p - q))))
      = [integer (min p q), integer (max p q)] := by
  have hd0 : k * (p - q) ≠ 0 := Int.mul_ne_zero h.k_ne_zero (sub_ne_zero.mpr hpq)
  have hd := h.square
  have hsmall : IsSmall (k * (p - q) * (k * (p - q))) := by
    unfold IsSmall
    rw [Int.natAbs_mul]
    exact Nat.le_of_lt hd
  have hp := fun t => @clean_root _ t _ k p h.small_numerator
    (Nat.le_trans (Nat.le_mul_self _) (Nat.le_of_lt hd)) (Int.natAbs_ne_zero.mpr hd0) h.k_ne_zero
    h.double h.small_p h.double_p
  have hq := fun t => @clean_root _ t _ k q h.small_numerator
    (Nat.le_trans (Nat.le_mul_self _) (Nat.le_of_lt hd)) (Int.natAbs_ne_zero.mpr hd0) h.k_ne_zero
    h.double h.small_q h.double_q
  unfold roots
  rw [if_pos ((Double.integer_pos_iff hsmall).mpr (mul_self_pos.mpr hd0)),
    Double.sqrt_square hd0 hd, Double.sub_eq_add_opposite, Double.opposite_nearest, Bool.not_false]
  generalize hj : (k * (p - q)).natAbs = j at hp hq ⊢
  rcases Int.le_total 0 (k * (p - q)) with hge | hle
  · have hj' : (j : Int) = k * (p - q) := by omega
    have hless : k * (p + q) + -(j : Int) = 2 * k * q := by rw [hj']; ring
    have hmore : k * (p + q) + (j : Int) = 2 * k * p := by rw [hj']; ring
    rw [hq true hless, hp false hmore, ascending_integer h.small_q h.small_p, min_comm, max_comm]
  · have hj' : (j : Int) = -(k * (p - q)) := by omega
    have hless : k * (p + q) + -(j : Int) = 2 * k * p := by rw [hj']; ring
    have hmore : k * (p + q) + (j : Int) = 2 * k * q := by rw [hj']; ring
    rw [hp true hless, hq false hmore, ascending_integer h.small_p h.small_q]

/-- The roots of `(x - p) * (x - q)`, each once and in ascending order. -/
def integerRoots (p q : Int) : List Int := if p = q then [p] else [min p q, max p q]

theorem map_integerRoots {α : Type} (f : Int → α) (p q : Int) :
    (integerRoots p q).map f = if p = q then [f p] else [f (min p q), f (max p q)] := by
  unfold integerRoots
  split <;> rfl

/-- **Integer roots come out exact and in ascending order.** -/
theorem roots_factored (h : IsFactored k p q) :
    roots (integer k) (integer (-(k * (p + q)))) (integer (k * (p - q) * (k * (p - q))))
      = (integerRoots p q).map integer := by
  rw [map_integerRoots]
  split
  · rename_i hpq
    subst hpq
    rw [Int.sub_self, Int.mul_zero]
    exact roots_repeated h
  · rename_i hpq
    exact roots_apart h hpq

theorem isSmall_of_mem_integerRoots (h : IsFactored k p q) {r : Int} (hr : r ∈ integerRoots p q) :
    IsSmall r := by
  have hpq : r = p ∨ r = q := by
    unfold integerRoots at hr
    split at hr
    · exact .inl (List.mem_singleton.mp hr)
    · rcases List.mem_pair.mp hr with rfl | rfl
      · exact min_choice p q
      · exact max_choice p q
  rcases hpq with rfl | rfl
  · exact h.small_p
  · exact h.small_q

/-- **The axis is in the middle of the roots**, exactly. -/
theorem vertex_factored (h : IsFactored k p q) (c : Float) :
    (vertex (integer k) (integer (-(k * (p + q)))) c).x.isFinite = true ∧
      Double.rational (vertex (integer k) (integer (-(k * (p + q)))) c).x
        = ((p + q : Int) : Rat) / 2 := by
  obtain ⟨s, hopposite, hsign⟩ := opposite_integer (k * (p + q))
  obtain ⟨t, hhalves, hvalue⟩ := exists_halves h.small_numerator h.k_ne_zero h.double hsign
  have htwo : twoTo 1 = 2 := rfl
  obtain ⟨hfinite, hrational⟩ := @Double.rational_dyadic t _ 1 h.small_sum (by decide)
  rw [htwo, Nat.cast_ofNat] at hrational
  rw [htwo] at hfinite
  rw [hvalue] at hrational
  have hx : (vertex (integer k) (integer (-(k * (p + q)))) c).x
      = clean (nearest t (p + q).natAbs 2) := by
    rw [← hhalves, ← hopposite]
    rfl
  rw [hx, rational_clean hfinite]
  exact ⟨isFinite_clean hfinite, hrational⟩

end

end AlgebraDesk.Quadratic

import AlgebraDesk.Proofs.Double.Closest
import AlgebraDesk.Proofs.Double.Order
import AlgebraDesk.Proofs.Fibonacci.Sequence

/-!
# A sequence that grows

The terms can also be written one after the other: a list that starts with 0 and 1 grows at its end,
by the sum of its last two items, until it is long enough, and what is too much is cut off.  This is
what the first terms are, and the ratios between them are rounded correctly and lie between 1 and 2.

* `lastTwo`, `grown`      the sum of the last two items, and the list as it grows;
* `grown_terms`           growing keeps the list one of first terms;
* `isClosest_ratio`, `ratio_bounds`   what a ratio is, and where it lies;
* `slice_settled`         the first terms and their ratios.
-/

namespace AlgebraDesk.Fibonacci

/-! ## growing -/

/-- the sum of the last two items -/
def lastTwo (out : List Nat) : Nat := out.getD (out.length - 1) 0 + out.getD (out.length - 2) 0

/-- The list with the sum of its last two items put behind it, until it has `n` items. -/
def grown (n : Nat) (out : List Nat) : List Nat :=
  if out.length < n then grown n (out ++ [lastTwo out]) else out
termination_by n - out.length
decreasing_by
  rw [List.length_append, List.length_singleton]
  omega

@[simp] theorem length_terms (n : Nat) : (terms n).length = n := length_termsFrom 0 1 n

theorem getElem?_terms {i n : Nat} (h : i < n) : (terms n)[i]? = some (Nat.fib i) := by
  rw [terms_eq, List.getElem?_map, List.getElem?_range h]
  rfl

theorem take_terms {m n : Nat} (h : m ≤ n) : (terms n).take m = terms m := by
  rw [terms_eq, terms_eq, ← List.map_take, List.take_range, Nat.min_eq_left h]

/-- One step: two terms or more grow by the next one. -/
theorem terms_concat {k : Nat} (h : 2 ≤ k) : terms k ++ [lastTwo (terms k)] = terms (k + 1) := by
  obtain ⟨i, rfl⟩ := Nat.exists_eq_add_of_le' h
  have hlast : (terms (i + 2)).getD (i + 1) 0 = Nat.fib (i + 1) := by
    rw [List.getD_eq_getElem?_getD, getElem?_terms (by omega)]
    rfl
  have hbefore : (terms (i + 2)).getD i 0 = Nat.fib i := by
    rw [List.getD_eq_getElem?_getD, getElem?_terms (by omega)]
    rfl
  have hsum : lastTwo (terms (i + 2)) = Nat.fib (i + 2) := by
    unfold lastTwo
    rw [length_terms]
    show (terms (i + 2)).getD (i + 1) 0 + (terms (i + 2)).getD i 0 = _
    rw [hlast, hbefore, Nat.fib_add_two, Nat.add_comm]
  rw [hsum, terms_eq, terms_eq, List.range_succ (n := i + 2), List.map_append]
  rfl

/-- **Growing keeps the list one of first terms**, and ends when it is long enough. -/
theorem grown_terms {k : Nat} (h : 2 ≤ k) (n : Nat) : grown n (terms k) = terms (max k n) := by
  -- by the number of items that are missing
  obtain ⟨d, hd⟩ : ∃ d, d = n - k := ⟨_, rfl⟩
  induction d generalizing k with
  | zero =>
    rw [grown, length_terms, if_neg (by omega), Nat.max_eq_left (by omega)]
  | succ d ih =>
    rw [grown, length_terms, if_pos (by omega), terms_concat h, ih (by omega) (by omega)]
    congr 1
    omega

theorem slice_natCast (n : Nat) : slice n = terms n := if_pos (Int.natCast_nonneg n)

/-- The first terms are the list that starts with 0 and 1, grown and cut off. -/
theorem slice_eq_grown (n : Nat) : slice n = (grown n [0, 1]).take n := by
  have hstart : ([0, 1] : List Nat) = terms 2 := rfl
  rw [slice_natCast, hstart, grown_terms (Nat.le_refl 2), take_terms (Nat.le_max_right 2 n)]

/-! ## ratios -/

section
variable {i : Nat}

theorem rounds_ratio (hi : 0 < i) : Double.Rounds (Nat.fib (i + 1) / Nat.fib i) (ratio i) :=
  ⟨false, Nat.fib (i + 1), Nat.fib i, Nat.fib_pos.mpr hi, by
    rw [Double.signed_false, Int.cast_natCast], rfl⟩

/-- A term is at least the one before it, and at most twice as much. -/
theorem quotient_bounds (hi : 0 < i) :
    (1 : Rat) ≤ Nat.fib (i + 1) / Nat.fib i ∧ (Nat.fib (i + 1) / Nat.fib i : Rat) ≤ 2 := by
  have hpos : (0 : Rat) < Nat.fib i := Nat.cast_pos.mpr (Nat.fib_pos.mpr hi)
  rw [le_div_iff₀ hpos, div_le_iff₀ hpos, one_mul]
  exact ⟨Nat.cast_le.mpr Nat.fib_le_fib_succ, by exact_mod_cast fib_succ_le_two_mul hi⟩

theorem isFinite_ratio (hi : 0 < i) : (ratio i).isFinite = true :=
  Double.isFinite_nearest (Nat.fib_pos.mpr hi) (by decide) (fib_succ_le_two_mul hi) false

/-- **A ratio is rounded correctly.** -/
theorem isClosest_ratio (hi : 0 < i) :
    Double.IsClosest (Nat.fib (i + 1) / Nat.fib i) (ratio i) :=
  Double.isClosest_nearest (Nat.fib_pos.mpr hi) (isFinite_ratio hi)

/-- **A ratio lies between 1 and 2**, which are doubles themselves. -/
theorem ratio_bounds (hi : 0 < i) : 1 ≤ ratio i ∧ ratio i ≤ 2 := by
  have hone : Double.IsSmall 1 := by decide
  have htwo : Double.IsSmall 2 := by decide
  have hone' : (1 : Float) = Double.integer 1 := by decide +kernel
  have htwo' : (2 : Float) = Double.integer 2 := by decide +kernel
  obtain ⟨hlow, hhigh⟩ := quotient_bounds hi
  rw [hone', htwo', Double.le_iff (Double.isFinite_integer hone) (isFinite_ratio hi),
    Double.le_iff (isFinite_ratio hi) (Double.isFinite_integer htwo)]
  exact ⟨(Double.rounds_integer 1).rational_le (rounds_ratio hi) (Double.isFinite_integer hone)
      (isFinite_ratio hi) (by exact_mod_cast hlow),
    (rounds_ratio hi).rational_le (Double.rounds_integer 2) (isFinite_ratio hi)
      (Double.isFinite_integer htwo) (by exact_mod_cast hhigh)⟩

end

/-! ## any number of terms -/

/-- **The first terms and their ratios.**  There are as many as asked for, they are the Fibonacci
numbers from the first on, and fewer of them are the beginning of more.  No ratio fails and none is
left out: from the third term on, each is the quotient of the term and the one before it, rounded
correctly, and lies between 1 and 2. -/
theorem slice_settled (n : Nat) :
    slice n = (grown n [0, 1]).take n ∧ (slice n).length = n ∧
    (∀ i < n, (slice n)[i]? = some (Nat.fib i)) ∧
    (∀ m : Nat, m ≤ n → slice m <+: slice n) ∧
    ∃ rs, ratios (values (slice n)) = .ok rs ∧ rs.length = n - 2 ∧
      ∀ j x, rs[j]? = some x →
        Double.IsClosest ((Nat.fib (j + 2) : Rat) / Nat.fib (j + 1)) x ∧ 1 ≤ x ∧ x ≤ 2 := by
  refine ⟨slice_eq_grown n, ?_, fun i hi => ?_, fun m hm => ?_, ?_⟩
  · rw [slice_natCast, length_terms]
  · rw [slice_natCast, getElem?_terms hi]
  · rw [slice_natCast, slice_natCast, ← take_terms hm]
    exact List.take_prefix m (terms n)
  · refine ⟨_, by rw [slice_natCast, values_terms, ratios_eq], by simp, fun j x hx => ?_⟩
    rw [List.getElem?_map] at hx
    obtain ⟨i, hi, rfl⟩ := Option.map_eq_some_iff.mp hx
    obtain ⟨-, rfl⟩ := List.getElem?_eq_some_iff.mp hi
    rw [List.getElem_range', Nat.one_mul, Nat.add_comm 1 j]
    exact ⟨isClosest_ratio (Nat.succ_pos j), ratio_bounds (Nat.succ_pos j)⟩

/-- The first five terms, the last of them, and the ratio of it to the one before. -/
theorem slice_settled_five :
    slice 5 = [0, 1, 1, 2, 3] ∧ (slice 5)[4]? = some (Nat.fib 4) ∧ slice 2 <+: slice 5 ∧
    ∃ rs x, ratios (values (slice 5)) = .ok rs ∧ rs.length = 3 ∧ rs[2]? = some x ∧
      Double.IsClosest (3 / 2) x ∧ 1 ≤ x ∧ x ≤ 2 := by
  obtain ⟨-, -, hterm, hprefix, rs, hrs, hlength, hratio⟩ := slice_settled 5
  obtain ⟨x, hx⟩ : ∃ x, rs[2]? = some x :=
    ⟨_, List.getElem?_eq_getElem (by rw [hlength]; decide)⟩
  have hquotient : ((Nat.fib 4 : Rat) / Nat.fib 3) = 3 / 2 := by norm_num [Nat.fib_add_two]
  exact ⟨by decide, hterm 4 (by decide), hprefix 2 (by decide), rs, x, hrs, hlength, hx,
    hquotient ▸ hratio 2 x hx⟩

end AlgebraDesk.Fibonacci

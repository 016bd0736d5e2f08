import AlgebraDesk.Fibonacci.Sequence
import AlgebraDesk.Proofs.Double.Integer
import AlgebraDesk.Proofs.Value.Number
import Mathlib.Data.Nat.Fib.Basic

/-!
# The terms and their ratios

The terms are the Fibonacci numbers.  From the second one on none of them is zero and each is at
most twice the one before it, so every ratio over the term before has a finite double and nothing
stops the division.  A count is an integer within its bounds, or the double that is equal to one.

* `terms_eq`     the terms as Fibonacci numbers;
* `ratio`        the double nearest to the quotient of two terms side by side;
* `ratios_eq`    the ratios of the first terms;
* `AsksFor`, `count?_eq_some_iff`   the values that are accepted as a count.
-/

namespace AlgebraDesk.Fibonacci

open Decimal (twoTo)

/-! ## terms -/

theorem termsFrom_fib (i n : Nat) :
    termsFrom (Nat.fib i) (Nat.fib (i + 1)) n = (List.range' i n).map Nat.fib := by
  induction n generalizing i with
  | zero => rfl
  | succ n ih =>
    rw [termsFrom_succ, ← Nat.fib_add_two, ih (i + 1), List.range'_succ, List.map_cons]

/-- **The terms are the Fibonacci numbers.** -/
theorem terms_eq (n : Nat) : terms n = (List.range n).map Nat.fib := by
  rw [List.range_eq_range', ← termsFrom_fib 0 n]
  rfl

/-- The first terms as values. -/
def fibValues (n : Nat) : List Value := (List.range n).map fun i => .int (Nat.fib i)

theorem values_terms (n : Nat) : values (terms n) = fibValues n := by
  rw [terms_eq]
  unfold values fibValues
  rw [List.map_map]
  rfl

@[simp] theorem length_fibValues (n : Nat) : (fibValues n).length = n := by
  unfold fibValues
  rw [List.length_map, List.length_range]

theorem take_fibValues {k n : Nat} (h : k ≤ n) : (fibValues n).take k = fibValues k := by
  unfold fibValues
  rw [← List.map_take, List.take_range, Nat.min_eq_left h]

/-! ## ratios -/

/-- The double nearest to a term over the one before it. -/
def ratio (i : Nat) : Float := Double.nearest false (Nat.fib (i + 1)) (Nat.fib i)

theorem isZero_int (n : Int) : isZero (.int n) = decide (n = 0) := by
  show (some (compare n 0) == some .eq) = decide (n = 0)
  rw [Bool.eq_iff_iff, beq_iff_eq, Option.some_inj, Int.compare_eq_eq, decide_eq_true_iff]

theorem fib_succ_le_two_mul {i : Nat} (hi : 0 < i) : Nat.fib (i + 1) ≤ 2 * Nat.fib i := by
  obtain ⟨i, rfl⟩ := Nat.exists_eq_add_one_of_ne_zero (Nat.ne_of_gt hi)
  have hmono : Nat.fib i ≤ Nat.fib (i + 1) := Nat.fib_le_fib_succ
  rw [Nat.fib_add_two]
  omega

theorem quotient_fib {i : Nat} (hi : 0 < i) :
    quotient (.int (Nat.fib (i + 1))) (.int (Nat.fib i)) = .ok (ratio i) := by
  have hpos : 0 < Nat.fib i := Nat.fib_pos.mpr hi
  have hne : (Nat.fib i : Int) ≠ 0 := by omega
  have hquotient : Double.quotient? (Nat.fib (i + 1)) (Nat.fib i) = some (ratio i) :=
    Double.quotient?_eq hpos (by decide) (fib_succ_le_two_mul hi)
  show (Number.int (Nat.fib (i + 1))).divide (.int (Nat.fib i)) = _
  rw [Number.divide, if_neg hne, hquotient]

theorem ratiosFrom_fib {i : Nat} (hi : 0 < i) (n : Nat) :
    ratiosFrom (.int (Nat.fib i)) ((List.range' (i + 1) n).map fun j => .int (Nat.fib j))
      = .ok ((List.range' i n).map ratio) := by
  induction n generalizing i with
  | zero => rfl
  | succ n ih =>
    have hpos : 0 < Nat.fib i := Nat.fib_pos.mpr hi
    have hzero : isZero (.int (Nat.fib i)) = false := by
      rw [isZero_int, decide_eq_false (by omega)]
    rw [List.range'_succ, List.map_cons, List.range'_succ, List.map_cons]
    unfold ratiosFrom
    rw [hzero, if_neg Bool.false_ne_true, quotient_fib hi, ih (Nat.succ_pos i)]
    rfl

/-- **No ratio of the first terms fails**, and there is one for every term from the third on. -/
theorem ratios_eq (n : Nat) : ratios (fibValues n) = .ok ((List.range' 1 (n - 2)).map ratio) := by
  match n with
  | 0 => rfl
  | 1 => rfl
  | n + 2 =>
    have e : fibValues (n + 2) = .int (Nat.fib 0) :: .int (Nat.fib 1)
        :: (List.range' 2 n).map fun j => .int (Nat.fib j) := by
      unfold fibValues
      rw [List.range_eq_range', List.range'_succ, List.range'_succ]
      rfl
    rw [e]
    exact ratiosFrom_fib Nat.one_pos n

/-! ## asking for terms -/

theorem count?_range {v : Value} {n : Nat} (h : count? v = some n) : 2 ≤ n ∧ n ≤ 25 := by
  unfold count? at h
  obtain ⟨k, _, h⟩ := Option.bind_eq_some_iff.mp h
  obtain ⟨m, _, h⟩ := Option.bind_eq_some_iff.mp h
  split at h
  · rename_i hbounds
    rw [Bool.and_eq_true, Bool.and_eq_true, decide_eq_true_iff, decide_eq_true_iff] at hbounds
    obtain ⟨⟨_, hmin⟩, hmax⟩ := hbounds
    cases h
    unfold minTerms at hmin
    unfold maxTerms at hmax
    omega
  · cases h

theorem count?_int (k : Int) :
    count? (.int k) = if minTerms ≤ k && k ≤ maxTerms then some k.toNat else none := by
  have heq : (Number.int k).eq (.int k) = true := by
    show (some (compare k k) == some .eq) = true
    rw [Int.compare_eq_eq.mpr rfl]
    rfl
  show (if (Number.int k).eq (.int k) && minTerms ≤ k && k ≤ maxTerms
    then some k.toNat else none) = _
  rw [heq, Bool.true_and]

theorem count?_real {x : Float} {k : Int} (h : Double.truncate? x = some k) :
    count? (.real x) = if (Number.real x).eq (.int k) && minTerms ≤ k && k ≤ maxTerms
      then some k.toNat else none := by
  have hread : Value.readInteger (.real x) = .ok k := by
    unfold Value.readInteger
    dsimp only
    rw [h]
  unfold count?
  rw [hread]
  rfl

theorem count?_real_eq_none {x : Float} (h : Double.truncate? x = none) :
    count? (.real x) = none := by
  unfold count? Value.readInteger
  dsimp only
  rw [h]
  dsimp only
  split <;> rfl

/-- The values that ask for `n` terms: the integer, and the double that is equal to it. -/
inductive AsksFor (n : Nat) : Value → Prop
  | int : AsksFor n (.int n)
  | real : AsksFor n (.real (Double.integer n))

theorem isSmall_of_le {n : Nat} (h : n ≤ 25) : Double.IsSmall n := by
  unfold Double.IsSmall
  rw [Double.twoTo_53]
  omega

theorem in_bounds_iff (k : Int) :
    (decide (minTerms ≤ k) && decide (k ≤ maxTerms)) = true ↔ 2 ≤ k ∧ k ≤ 25 := by
  rw [Bool.and_eq_true, decide_eq_true_iff, decide_eq_true_iff]
  exact Iff.rfl

theorem count?_of_asksFor {v : Value} {n : Nat} (hmin : 2 ≤ n) (hmax : n ≤ 25)
    (h : AsksFor n v) : count? v = some n := by
  have hbounds := (in_bounds_iff n).mpr ⟨by omega, by omega⟩
  cases h with
  | int => rw [count?_int, hbounds, if_pos rfl, Int.toNat_natCast]
  | real =>
    have hsmall := isSmall_of_le hmax
    have heq := (Value.eq_real_int_iff (Double.isFinite_integer hsmall) n).mpr
      (Double.units_integer hsmall)
    rw [count?_real (Double.truncate?_integer hsmall), heq, Bool.true_and, hbounds, if_pos rfl,
      Int.toNat_natCast]

theorem asksFor_of_count? {v : Value} {n : Nat} (h : count? v = some n) : AsksFor n v := by
  cases v with
  | null | list _ | object _ => cases h
  | bool b => cases b <;> cases h
  | text s =>
    obtain ⟨_, _, h⟩ := Option.bind_eq_some_iff.mp h
    cases h
  | int k =>
    rw [count?_int] at h
    split at h
    · rename_i hbounds
      obtain ⟨hmin, _⟩ := (in_bounds_iff k).mp hbounds
      cases h
      rw [← Int.toNat_of_nonneg (by omega : 0 ≤ k)]
      exact .int
    · cases h
  | real x =>
    cases htruncate : Double.truncate? x with
    | none =>
      rw [count?_real_eq_none htruncate] at h
      cases h
    | some k =>
      rw [count?_real htruncate] at h
      split at h
      · rename_i hbounds
        rw [Bool.and_assoc, Bool.and_eq_true, in_bounds_iff] at hbounds
        obtain ⟨heq, hmin, hmax⟩ := hbounds
        cases h
        -- the double and the integer have the same units, and neither is zero
        have hfinite := Value.isFinite_of_truncate? htruncate
        have hunits := (Value.eq_real_int_iff hfinite k).mp heq
        have hsmall : Double.IsSmall k := by
          rw [← Int.toNat_of_nonneg (by omega : 0 ≤ k)]
          exact isSmall_of_le (by omega)
        have hne : x ≠ -0 := by
          rintro rfl
          rw [Double.negativeZero_eq_ofCode, Double.units_zero] at hunits
          have hpos : 0 < k * (Double.unitsPerOne : Int) :=
            Int.mul_pos (by omega) (Int.natCast_pos.mpr Double.unitsPerOne_pos)
          omega
        have hx : x = Double.integer k :=
          Double.eq_of_units hfinite (Double.isFinite_integer hsmall) hne
            (Double.integer_ne_negativeZero hsmall)
            (hunits.trans (Double.units_integer hsmall).symm)
        rw [hx, ← Int.toNat_of_nonneg (by omega : 0 ≤ k)]
        exact .real
      · cases h

/-- **Which values are counts.** -/
theorem count?_eq_some_iff {v : Value} {n : Nat} :
    count? v = some n ↔ (2 ≤ n ∧ n ≤ 25) ∧ AsksFor n v :=
  ⟨fun h => ⟨count?_range h, asksFor_of_count? h⟩,
    fun h => count?_of_asksFor h.1.1 h.1.2 h.2⟩

/-- What is generated is refused for its count or is the first terms with their ratios. -/
theorem generate_eq (v : Value) : generate v = match count? v with
    | none => .error (.refused .invalidCount)
    | some n => .ok ⟨terms n, (List.range' 1 (n - 2)).map ratio⟩ := by
  unfold generate
  cases count? v with
  | none => rfl
  | some n => simp only [values_terms, ratios_eq]

end AlgebraDesk.Fibonacci

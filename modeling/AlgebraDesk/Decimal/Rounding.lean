/-!
# Rounding a quotient

Everything that is rounded here is a quotient of two natural numbers, rounded once: to a decimal
grid when a number is shown, to the binary grid when one is read.

* `tenTo`, `twoTo`         the powers that give the two grids their steps;
* `roundHalfEven num den`  the integer nearest to `num / den`; a half goes to the even neighbour.
-/

namespace AlgebraDesk.Decimal

def tenTo (n : Nat) : Nat := Nat.pow 10 n

def twoTo (n : Nat) : Nat := Nat.pow 2 n

theorem tenTo_zero : tenTo 0 = 1 := rfl
theorem tenTo_succ (n : Nat) : tenTo (n + 1) = tenTo n * 10 := rfl

theorem twoTo_zero : twoTo 0 = 1 := rfl
theorem twoTo_succ (n : Nat) : twoTo (n + 1) = twoTo n * 2 := rfl

theorem tenTo_pos (n : Nat) : 0 < tenTo n := by
  induction n with
  | zero => exact Nat.one_pos
  | succ n ih => rw [tenTo_succ]; omega

theorem twoTo_pos (n : Nat) : 0 < twoTo n := by
  induction n with
  | zero => exact Nat.one_pos
  | succ n ih => rw [twoTo_succ]; omega

def roundHalfEven (num den : Nat) : Nat :=
  let q := num / den
  let r := num % den
  if 2 * r < den then q
  else if den < 2 * r then q + 1
  else q + q % 2

/-- A multiple of the divisor is not changed. -/
theorem roundHalfEven_mul (k : Nat) {den : Nat} (h : 0 < den) :
    roundHalfEven (k * den) den = k := by
  simp [roundHalfEven, Nat.mul_div_cancel k h, h]

theorem roundHalfEven_zero {den : Nat} (h : 0 < den) : roundHalfEven 0 den = 0 := by
  simp [roundHalfEven, h]

/-- The result is within half a unit of the quotient. -/
theorem roundHalfEven_near (num : Nat) {den : Nat} (h : 0 < den) :
    2 * num ≤ 2 * (roundHalfEven num den * den) + den ∧
      2 * (roundHalfEven num den * den) ≤ 2 * num + den := by
  have e : den * (num / den) + num % den = num := Nat.div_add_mod num den
  have hr : num % den < den := Nat.mod_lt num h
  have c : num / den * den = den * (num / den) := Nat.mul_comm _ _
  have s : (num / den + 1) * den = den * (num / den) + den := by
    rw [Nat.add_mul, c, Nat.one_mul]
  unfold roundHalfEven
  simp only
  split
  · omega
  · split
    · omega
    · rcases Nat.mod_two_eq_zero_or_one (num / den) with p | p <;> rw [p]
      · rw [Nat.add_zero]; omega
      · omega

end AlgebraDesk.Decimal

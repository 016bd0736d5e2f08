import AlgebraDesk.Proofs.Decimal.Display

/-!
# Numerals as the desk writes them

The text of a finite double without its sign is the digits of a natural number, which begin with a
zero only when it is zero, and behind a point other digits or no point at all.  All digits are plain
ones, and there are not many of them before the point.

* `IsWritten`               this form;
* `isWritten_trimmedChars`  what is written of a magnitude;
* `IsWritten.plain`         its characters.
-/

namespace AlgebraDesk.Decimal

open Double (Magnitude infinityCode unitsPerOne unitsPerOne_pos)

/-- More digits than a double has before its point. -/
def mostDigits : Nat := 310

inductive IsWritten : List Char → Prop where
  | whole (n : Nat) (hn : n < tenTo mostDigits) : IsWritten (digits n)
  | point (n : Nat) {fs : List Char} (hne : fs ≠ []) (hf : ∀ c ∈ fs, c.isDigit = true) :
    IsWritten (digits n ++ '.' :: fs)

theorem IsWritten.plain {cs : List Char} (h : IsWritten cs) :
    ∀ c ∈ cs, c.isDigit = true ∨ c = '.' := by
  intro c hc
  cases h with
  | whole n hn => exact .inl (isDigit_of_mem_digits hc)
  | point n hne hf =>
    rcases List.mem_append.mp hc with h | h
    · exact .inl (isDigit_of_mem_digits h)
    · rcases List.mem_cons.mp h with rfl | h
      · exact .inr rfl
      · exact .inl (hf c h)

section
variable {places code : Nat}

/-- The number before the point. -/
theorem whole_lt (places : Nat) (h : code < infinityCode) :
    fixedUnits places (.ofCode code) / tenTo places < tenTo mostDigits := by
  have hunits : (Magnitude.ofCode code).units < twoTo 1024 * unitsPerOne := by
    rw [← Double.units_infinityCode]
    exact Magnitude.units_lt_units.mpr h
  have hfixed : fixedUnits places (.ofCode code) ≤ twoTo 1024 * tenTo places := by
    refine roundHalfEven_le_of_lt unitsPerOne_pos ?_
    rw [Nat.mul_right_comm]
    exact Nat.mul_lt_mul_of_pos_right hunits (tenTo_pos places)
  have hpower : twoTo 1024 < tenTo mostDigits := by decide +kernel
  have hwhole : fixedUnits places (.ofCode code) / tenTo places ≤ twoTo 1024 := by
    refine Nat.div_le_of_le_mul ?_
    rw [Nat.mul_comm]
    exact hfixed
  exact Nat.lt_of_le_of_lt hwhole hpower

/-- **What is written of a magnitude is a numeral of this form.** -/
theorem isWritten_trimmedChars (places : Nat) (h : code < infinityCode) :
    IsWritten (trimmedChars places (fixedUnits places (.ofCode code))) := by
  unfold trimmedChars
  split
  · exact .whole _ (whole_lt places h)
  · rename_i hne
    exact .point _ hne fun c hc => isDigit_of_mem_dropped hc

end

end AlgebraDesk.Decimal

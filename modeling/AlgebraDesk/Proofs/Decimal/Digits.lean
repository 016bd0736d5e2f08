import AlgebraDesk.Decimal.Numeral
import AlgebraDesk.Proofs.Decimal.Numeral
import Mathlib.Data.List.Basic
import Mathlib.Tactic.Ring

/-!
# Rows of digits

What a row of digits spells, and how many digits a number has.

* `digitsValue_append`   a row in two parts;
* `digitsValue_lt`       a row spells less than the power of ten of its length;
* `digitsValue_digits`   the digits of a number spell it;
* `lt_tenTo_length`, `tenTo_length_le`   the number of digits.
-/

namespace AlgebraDesk.Decimal

open Text (digitValue?)

theorem tenTo_add (m n : Nat) : tenTo (m + n) = tenTo m * tenTo n := Nat.pow_add 10 m n

theorem tenTo_le_tenTo {m n : Nat} (h : m ≤ n) : tenTo m ≤ tenTo n :=
  Nat.pow_le_pow_right (by decide) h

theorem foldl_digits (n : Nat) (cs : List Char) :
    cs.foldl (fun n c => 10 * n + (digitValue? c).getD 0) n
      = n * tenTo cs.length + digitsValue cs := by
  unfold digitsValue
  induction cs generalizing n with
  | nil => simp [tenTo_zero]
  | cons c cs ih =>
    rw [List.foldl_cons, List.foldl_cons, ih, ih (10 * 0 + _), List.length_cons, tenTo_succ]
    ring

theorem digitsValue_append (cs ds : List Char) :
    digitsValue (cs ++ ds) = digitsValue cs * tenTo ds.length + digitsValue ds := by
  rw [← foldl_digits]
  exact List.foldl_append

theorem digitsValue_replicate_zero (n : Nat) : digitsValue (List.replicate n '0') = 0 := by
  induction n with
  | zero => rfl
  | succ n ih =>
    rw [List.replicate_succ, ← List.singleton_append, digitsValue_append, ih]
    have hzero : digitsValue ['0'] = 0 := by decide
    rw [hzero, Nat.zero_mul]

theorem digitsValue_ascii {cs : List Char} (h : ∀ c ∈ cs, c.isDigit = true) :
    digitsValue cs = Nat.ofDigitChars 10 cs 0 := by
  rw [Nat.ofDigitChars_eq_foldl]
  unfold digitsValue
  refine List.foldl_ext _ _ 0 (fun n c hc => ?_)
  rw [digitValue?_ascii (h c hc)]
  rfl

theorem digitValue?_le (c : Char) : (digitValue? c).getD 0 ≤ 9 := by
  unfold digitValue?
  split
  · split
    · rename_i h
      have h9 : c.toNat ≤ 57 := (Char.isDigit_iff_toNat.mp h).2
      rw [Option.getD_some]
      omega
    · exact Nat.zero_le _
  · cases hrow : Text.zeroDigits.find? fun z => z ≤ c.toNat && c.toNat < z + 10 with
    | none => exact Nat.zero_le _
    | some z =>
      have hz : z ≤ c.toNat ∧ c.toNat < z + 10 := by simpa using List.find?_some hrow
      show c.toNat - z ≤ 9
      omega

theorem digitsValue_lt (cs : List Char) : digitsValue cs < tenTo cs.length := by
  induction cs with
  | nil => exact Nat.one_pos
  | cons c cs ih =>
    have hc := digitValue?_le c
    have hone : digitsValue [c] = (digitValue? c).getD 0 := Nat.zero_add _
    rw [← List.singleton_append, digitsValue_append, hone, List.singleton_append,
      List.length_cons, tenTo_succ]
    calc (digitValue? c).getD 0 * tenTo cs.length + digitsValue cs
        ≤ 9 * tenTo cs.length + digitsValue cs :=
          Nat.add_le_add_right (Nat.mul_le_mul_right _ hc) _
      _ < 9 * tenTo cs.length + tenTo cs.length := Nat.add_lt_add_left ih _
      _ = tenTo cs.length * 10 := by omega

theorem isDigit_of_mem_digits {n : Nat} {c : Char} (h : c ∈ digits n) : c.isDigit = true :=
  Nat.isDigit_of_mem_toDigits (by decide) (by decide) h

theorem isDigit_digits (n : Nat) : ∀ c ∈ digits n, Text.isDigit c = true :=
  fun _ hc => isDigit_of_ascii (isDigit_of_mem_digits hc)

theorem digitsValue_digits (n : Nat) : digitsValue (digits n) = n := by
  rw [digitsValue_ascii (fun c => isDigit_of_mem_digits)]
  exact Nat.ofDigitChars_ten_toDigits

theorem digits_ne_nil (n : Nat) : digits n ≠ [] := Nat.toDigits_ne_nil

theorem lt_tenTo_length (n : Nat) : n < tenTo (digits n).length :=
  (Nat.length_toDigits_le_iff (by decide) Nat.length_toDigits_pos).mp (Nat.le_refl _)

theorem tenTo_length_le {n : Nat} (h : n ≠ 0) : tenTo ((digits n).length - 1) ≤ n := by
  by_contra hlt
  rcases Nat.lt_or_ge 1 (digits n).length with hlong | hshort
  · have := (Nat.length_toDigits_le_iff (b := 10) (n := n) (k := (digits n).length - 1) (by decide)
      (by omega)).mpr (Nat.not_le.mp hlt)
    unfold digits at *
    omega
  · have hone : (digits n).length - 1 = 0 := by omega
    rw [hone, tenTo_zero] at hlt
    omega

theorem length_digits_le {n places : Nat} (h : n < tenTo places) (hpos : 0 < places) :
    (digits n).length ≤ places :=
  (Nat.length_toDigits_le_iff (by decide) hpos).mpr h

theorem digits_zero : digits 0 = ['0'] := Nat.toDigits_zero 10

end AlgebraDesk.Decimal

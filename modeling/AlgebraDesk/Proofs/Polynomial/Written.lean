import AlgebraDesk.Proofs.Decimal.Written
import AlgebraDesk.Proofs.Polynomial.RoundTrip

/-!
# The characters of a printed polynomial

A printed polynomial is written with plain digits, points, signs, `x` and `^`.  So it holds no
blank, no line end and no sign of a relation, and it begins with no letter of a keyword.

* `isPolynomialChar`        the characters;
* `of_mem_displayTerms`, `mem_displayTerms`   no other character is printed;
* `displayTerms_ne_nil`     and some character is;
* `numeral_ofReal_written`  the numerals of the terms.
-/

namespace AlgebraDesk

open Decimal (IsWritten)

theorem Coefficient.numeral_ofReal_written (places : Int) {x : Float} (hx : x.isFinite = true) :
    IsWritten (ofReal places x).numeral := by
  obtain ⟨negative, code, hcode, rfl⟩ := Double.eq_ofCode_of_isFinite hx
  rw [ofReal_ofCode places hcode]
  exact Decimal.isWritten_trimmedChars _ hcode

namespace Polynomial

def isPolynomialChar (c : Char) : Bool := c.isDigit || ['.', 'x', '^', '+', '-'].contains c

theorem isPolynomialChar_of_digit {c : Char} (h : c.isDigit = true) :
    isPolynomialChar c = true := by
  unfold isPolynomialChar
  rw [h, Bool.true_or]

/-- A fact about the digits and the other characters. -/
theorem of_isPolynomialChar {P : Char → Prop} (hdigit : ∀ c, c.isDigit = true → P c)
    (hpoint : P '.') (hvariable : P 'x') (hpower : P '^') (hplus : P '+') (hminus : P '-')
    {c : Char} (h : isPolynomialChar c = true) : P c := by
  rcases Bool.or_eq_true _ _ ▸ h with h | h
  · exact hdigit c h
  · have hmem := List.contains_iff_mem.mp h
    simp only [List.mem_cons, List.not_mem_nil, or_false] at hmem
    rcases hmem with rfl | rfl | rfl | rfl | rfl
    · exact hpoint
    · exact hvariable
    · exact hpower
    · exact hplus
    · exact hminus

section
variable {c : Char}

theorem isBlank_of_isPolynomialChar (h : isPolynomialChar c = true) : Text.isBlank c = false := 
  of_isPolynomialChar (P := fun c => Text.isBlank c = false)
    (fun _ hc => Decimal.isBlank_of_isDigit (Decimal.isDigit_of_ascii hc))
    (by decide) (by decide) (by decide) (by decide) (by decide) h

theorem toLower_of_isPolynomialChar (h : isPolynomialChar c = true) : c.toLower = c := 
  of_isPolynomialChar (P := fun c => c.toLower = c)
    (fun _ hc => Decimal.toLower_of_isDigit (Decimal.isDigit_of_ascii hc))
    (by decide) (by decide) (by decide) (by decide) (by decide) h

end

/-! ## printed terms -/

theorem isPolynomialChar_of_isWritten {cs : List Char} (h : IsWritten cs) :
    ∀ c ∈ cs, isPolynomialChar c = true := by
  intro c hc
  rcases h.plain c hc with h | rfl
  · exact isPolynomialChar_of_digit h
  · decide

section
variable {ka kb kc : Coefficient} {P : Char → Prop}

theorem mem_displayTerm (hplus : P '+') (hminus : P '-') {k : Coefficient} {power : List Char}
    {first : Bool} (hk : ∀ c ∈ k.numeral, P c) (hpower : ∀ c ∈ power, P c) :
    ∀ c ∈ displayTerm k power first, P c := by
  intro c hc
  rw [displayTerm_eq] at hc
  rcases List.mem_append.mp hc with hc | hc
  · rcases (isSign_signOf k first).mem c hc with rfl | rfl
    · exact hplus
    · exact hminus
  · rcases List.mem_append.mp hc with hc | hc
    · unfold numeralOf at hc
      split at hc
      · exact absurd hc List.not_mem_nil
      · exact hk c hc
    · exact hpower c hc

theorem mem_displaySum (hplus : P '+') (hminus : P '-') {es : List (Coefficient × List Char)}
    (hes : ∀ e ∈ es, (∀ c ∈ e.1.numeral, P c) ∧ ∀ c ∈ e.2, P c) (first : Bool) :
    ∀ c ∈ displaySum first es, P c := by
  induction es generalizing first with
  | nil => exact nofun
  | cons e es ih =>
    rw [List.forall_mem_cons] at hes
    unfold displaySum
    split
    · exact ih hes.2 first
    · intro c hc
      rcases List.mem_append.mp hc with hc | hc
      · exact mem_displayTerm hplus hminus hes.1.1 hes.1.2 c hc
      · exact ih hes.2 false c hc

/-- What holds of the characters of the numerals and of a few others holds of all that is
printed. -/
theorem of_mem_displayTerms (hfixed : ∀ c ∈ ['x', '^', '2', '+', '-', '0'], P c)
    (ha : ∀ c ∈ ka.numeral, P c) (hb : ∀ c ∈ kb.numeral, P c) (hc : ∀ c ∈ kc.numeral, P c) :
    ∀ c ∈ displayTerms ka kb kc, P c := by
  have hsquare : ∀ c ∈ ['x', '^', '2'], P c :=
    fun c h => hfixed c (List.mem_append_left ['+', '-', '0'] h)
  have hvariable : ∀ c ∈ ['x'], P c := fun c h => hsquare c (List.mem_append_left ['^', '2'] h)
  have hsum : ∀ c ∈ displaySum true [(ka, ['x', '^', '2']), (kb, ['x']), (kc, [])], P c := by
    refine mem_displaySum (hfixed '+' (by decide)) (hfixed '-' (by decide)) (fun e he => ?_) true
    simp only [List.mem_cons, List.not_mem_nil, or_false] at he
    rcases he with rfl | rfl | rfl
    · exact ⟨ha, hsquare⟩
    · exact ⟨hb, hvariable⟩
    · exact ⟨hc, nofun⟩
  unfold displayTerms
  split
  · intro c hzero
    exact hfixed c (List.mem_append_right ['x', '^', '2', '+', '-'] hzero)
  · exact hsum

/-- **A polynomial is printed with these characters only.** -/
theorem mem_displayTerms (ha : IsWritten ka.numeral) (hb : IsWritten kb.numeral)
    (hc : IsWritten kc.numeral) : ∀ c ∈ displayTerms ka kb kc, isPolynomialChar c = true :=
  of_mem_displayTerms (List.all_eq_true.mp (by decide)) (isPolynomialChar_of_isWritten ha)
    (isPolynomialChar_of_isWritten hb) (isPolynomialChar_of_isWritten hc)

theorem displayTerms_ne_nil : displayTerms ka kb kc ≠ [] := by
  unfold displayTerms
  split
  · exact List.cons_ne_nil _ _
  · rename_i hne
    exact hne

end

end Polynomial

end AlgebraDesk

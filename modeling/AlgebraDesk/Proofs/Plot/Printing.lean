import AlgebraDesk.Plot.Source
import AlgebraDesk.Proofs.Category
import AlgebraDesk.Proofs.Plot.Scanning

/-!
# The expression of a printed polynomial

A printed polynomial with `y=` in front is a graph expression: nothing in it is refused, and its
tree is a sum with one term for each coefficient that is not left out.

* `Entry`               a coefficient, its decimal and what stands behind it;
* `scans_displaySum`    the tokens of what is printed;
* `read?_printed`       its tree;
* `value?_treeOf`       the value of this tree;
* `ofText_polynomial`   nothing in a polynomial is refused.
-/

namespace AlgebraDesk.Plot

open AlgebraDesk.Polynomial (displaySum displayTerm displayTerm_eq displayTerms isPolynomialChar
  isSign numeralOf signOf)
open Decimal (Digits)

/-! ## entries -/

/-- A coefficient with the decimal of its numeral, and what stands behind it. -/
structure Entry where
  k : Coefficient
  d : Digits
  spelling : Spelling
  unknown? : Option Unknown
  written : Writes k.numeral d spelling

namespace Entry

def power (e : Entry) : List Char := (e.unknown?.map Unknown.chars).getD []

def monomial (e : Entry) : Monomial :=
  match e.unknown? with
  | none => .constant e.d e.spelling
  | some u => if e.k.isUnit then .unit u else .scaled e.d e.spelling u

/-- The term of an entry; none when it is left out. -/
def signed? (e : Entry) : Option Signed :=
  if e.k.vanishes then none else some ⟨e.k.negative, e.monomial⟩

/-- What the coefficient counts for. -/
def coefficient (literal : Digits → Rat) (e : Entry) : Rat :=
  if e.k.vanishes then 0 else if e.k.negative then -literal e.d else literal e.d

/-- The coefficient times what stands behind it. -/
def value (literal : Digits → Rat) (x : Rat) (e : Entry) : Rat :=
  e.coefficient literal * (e.unknown?.map (Unknown.value x)).getD 1

end Entry

/-! ## tokens -/

section
variable {rest : List Char} {us : List Token}

theorem writes_digit (n : Nat) (h : n < 10) : Writes (Decimal.digits n) ⟨n, 0⟩ .whole :=
  .whole n (h.trans_le (Decimal.tenTo_le_tenTo (show 1 ≤ Decimal.mostDigits by decide)))

theorem isStop_of_isSign {c : Char} (h : isSign c = true) : isStop c = true := by
  unfold isSign at h
  unfold isStop
  rw [Bool.or_assoc, h, Bool.or_true]

theorem isWordChar_of_isSign {c : Char} (h : isSign c = true) : Text.isWordChar c = false := by
  unfold isSign at h
  rw [Bool.or_eq_true, beq_iff_eq, beq_iff_eq] at h
  rcases h with rfl | rfl <;> decide

theorem Scans.unknown (u : Unknown) (hrest : ∀ c ∈ rest.head?, isSign c = true)
    (h : Scans rest us) : Scans (u.chars ++ rest) (u.tokens ++ us) := by
  cases u with
  | plain => exact .symbol (fun c hc => isWordChar_of_isSign (hrest c hc)) h
  | squared =>
    have htwo : Writes ['2'] ⟨2, 0⟩ .whole := writes_digit 2 (by decide)
    have hexponent : Scans ('2' :: rest) (.numeral ⟨2, 0⟩ .whole :: us) :=
      Scans.numeral htwo (fun c hc => isStop_of_isSign (hrest c hc)) h
    refine .symbol (fun c hc => ?_) (.power hexponent)
    rw [← Option.some.inj hc]
    decide

theorem isStop_head_unknown (u : Unknown) : ∀ c ∈ (u.chars ++ rest).head?, isStop c = true := by
  intro c hc
  cases u <;> rw [← Option.some.inj hc] <;> decide

/-- A term behind its sign. -/
theorem Scans.monomial (e : Entry) (hrest : ∀ c ∈ rest.head?, isSign c = true)
    (h : Scans rest us) :
    Scans (numeralOf e.k e.power ++ e.power ++ rest) (e.monomial.tokens ++ us) := by
  have hstop : ∀ c ∈ rest.head?, isStop c = true := fun c hc => isStop_of_isSign (hrest c hc)
  obtain ⟨k, d, spelling, unknown?, hwritten⟩ := e
  cases unknown? with
  | none =>
    show Scans (k.numeral ++ [] ++ rest) _
    rw [List.append_nil]
    exact .numeral hwritten hstop h
  | some u =>
    have hmark := Scans.unknown u hrest h
    have hpower : u.chars.isEmpty = false := by cases u <;> rfl
    unfold Entry.monomial Entry.power numeralOf
    simp only [Option.map_some, Option.getD_some, hpower, Bool.not_false, Bool.true_and]
    cases k.isUnit with
    | true => exact hmark
    | false =>
      show Scans (k.numeral ++ u.chars ++ rest) _
      rw [List.append_assoc]
      exact .numeral hwritten (isStop_head_unknown u) hmark

/-- A term behind another one. -/
theorem Scans.term (e : Entry) (hrest : ∀ c ∈ rest.head?, isSign c = true) (h : Scans rest us) :
    Scans (displayTerm e.k e.power false ++ rest)
      ((⟨e.k.negative, e.monomial⟩ : Signed).tokens ++ us) := by
  have hbody := Scans.monomial e hrest h
  rw [displayTerm_eq, List.append_assoc]
  unfold signOf Signed.tokens
  cases e.k.negative with
  | false => exact .plus hbody
  | true => exact .minus hbody

theorem Scans.firstTerm (e : Entry) (hrest : ∀ c ∈ rest.head?, isSign c = true)
    (h : Scans rest us) :
    Scans (displayTerm e.k e.power true ++ rest)
      ((⟨e.k.negative, e.monomial⟩ : Signed).firstTokens ++ us) := by
  have hbody := Scans.monomial e hrest h
  rw [displayTerm_eq, List.append_assoc]
  unfold signOf Signed.firstTokens
  cases e.k.negative with
  | false => exact hbody
  | true => exact .minus hbody

end

section
variable (es : List Entry)

/-- The entries as they are printed. -/
def printed : List (Coefficient × List Char) := es.map fun e => (e.k, e.power)

/-- **Behind the first term** every term begins with its sign. -/
theorem scans_rest : Scans (displaySum false (printed es))
      ((es.filterMap Entry.signed?).flatMap Signed.tokens) ∧
    ∀ c ∈ (displaySum false (printed es)).head?, isSign c = true := by
  induction es with
  | nil => exact ⟨.nil, nofun⟩
  | cons e es ih =>
    show Scans (displaySum false ((e.k, e.power) :: printed es)) _ ∧
      ∀ c ∈ (displaySum false ((e.k, e.power) :: printed es)).head?, isSign c = true
    rw [displaySum, List.filterMap_cons]
    unfold Entry.signed?
    cases e.k.vanishes with
    | true => exact ih
    | false =>
      refine ⟨Scans.term e ih.2 ih.1, fun c hc => ?_⟩
      rw [if_neg Bool.false_ne_true, displayTerm_eq] at hc
      unfold signOf at hc
      cases hnegative : e.k.negative with
      | false =>
        rw [hnegative] at hc
        cases hc
        decide
      | true =>
        rw [hnegative] at hc
        cases hc
        decide

/-- Nothing is printed, or a first term and others behind it. -/
theorem scans_displaySum :
    (es.filterMap Entry.signed? = [] ∧ displaySum true (printed es) = []) ∨
      ∃ s ss, es.filterMap Entry.signed? = s :: ss ∧
        Scans (displaySum true (printed es)) (sumTokens s ss) := by
  induction es with
  | nil => exact .inl ⟨rfl, rfl⟩
  | cons e es ih =>
    show (_ ∧ displaySum true ((e.k, e.power) :: printed es) = []) ∨
      ∃ s ss, _ ∧ Scans (displaySum true ((e.k, e.power) :: printed es)) (sumTokens s ss)
    rw [displaySum, List.filterMap_cons]
    unfold Entry.signed?
    cases e.k.vanishes with
    | true => exact ih
    | false =>
      obtain ⟨hrest, hhead⟩ := scans_rest es
      exact .inr ⟨_, _, rfl, Scans.firstTerm e hhead hrest⟩

/-! ## the expression -/

/-- The tree of what is printed; zero when nothing else is. -/
def treeOf : Expression :=
  match es.filterMap Entry.signed? with
  | [] => .numeral ⟨0, 0⟩ .whole
  | s :: ss => sumTree s ss

theorem symbols_treeOf : (treeOf es).symbols = [] := by
  unfold treeOf
  split
  · exact symbols_sumTree ⟨false, .constant ⟨0, 0⟩ .whole⟩ []
  · exact symbols_sumTree _ _

theorem read?_of_scans {cs : List Char} {s : Signed} {ss : List Signed}
    (h : Scans cs (sumTokens s ss)) : Expression.read? cs = some (sumTree s ss) := by
  unfold Expression.read?
  rw [h.scan]
  exact ofTokens?_sum s ss

theorem ne_nil_of_scans {cs : List Char} {s : Signed} {ss : List Signed}
    (h : Scans cs (sumTokens s ss)) : cs ≠ [] := by
  rintro rfl
  have hlength := length_sumTokens s ss
  rw [Option.some.inj (h.scan.symm.trans Scans.nil.scan)] at hlength
  exact Nat.not_lt_zero _ hlength

theorem scans_zero : Scans ['0'] (sumTokens ⟨false, .constant ⟨0, 0⟩ .whole⟩ []) :=
  @Scans.numeral ['0'] [] _ _ _ (writes_digit 0 (by decide)) nofun .nil

/-- **The text of a sum, or a zero in its place, is read as its tree.** -/
theorem read?_printed {cs : List Char}
    (hcs : cs = match displaySum true (printed es) with
      | [] => ['0']
      | cs => cs) : Expression.read? cs = some (treeOf es) := by
  unfold treeOf
  rcases scans_displaySum es with ⟨hnone, hnil⟩ | ⟨s, ss, hsome, hscans⟩
  · rw [hnil] at hcs
    rw [hnone, hcs]
    exact read?_of_scans scans_zero
  · have htext : cs = displaySum true (printed es) := by
      rw [hcs]
      split
      · rename_i hnil
        exact absurd hnil (ne_nil_of_scans hscans)
      · rfl
    rw [hsome, htext]
    exact read?_of_scans hscans

/-! ## the value -/

variable {literal : Digits → Rat} {x : Rat}

/-- A numeral that is left out counts for one. -/
theorem Entry.value_signed (e : Entry) (hv : e.k.vanishes = false)
    (hunit : e.k.isUnit = true → literal e.d = 1) :
    (⟨e.k.negative, e.monomial⟩ : Signed).value literal x = e.value literal x := by
  have hmonomial : e.monomial.value literal x
      = literal e.d * (e.unknown?.map (Unknown.value x)).getD 1 := by
    unfold Entry.monomial
    split
    · rename_i hnone
      rw [hnone]
      exact (mul_one _).symm
    · rename_i u hsome
      rw [hsome]
      split
      · rename_i hk
        rw [hunit hk]
        exact (one_mul _).symm
      · rfl
  unfold Signed.value Entry.value Entry.coefficient
  rw [hv, if_neg Bool.false_ne_true]
  simp only [hmonomial]
  split
  · exact (neg_mul _ _).symm
  · rfl

/-- **The value of what is printed** is the sum of the coefficients, each times what stands behind
it. -/
theorem value?_treeOf (hzero : literal ⟨0, 0⟩ = 0)
    (hunit : ∀ e ∈ es, e.k.isUnit = true → literal e.d = 1) :
    (treeOf es).value? literal x = some ((es.map (Entry.value literal x)).sum) := by
  have hsum : ((es.filterMap Entry.signed?).map (Signed.value literal x)).sum
      = (es.map (Entry.value literal x)).sum := by
    induction es with
    | nil => rfl
    | cons e es ih =>
      rw [List.forall_mem_cons] at hunit
      rw [List.filterMap_cons, List.map_cons, List.sum_cons, ← ih hunit.2]
      cases hv : e.k.vanishes with
      | true =>
        have hnone : e.signed? = none := if_pos hv
        have hvalue : e.value literal x = 0 := by
          unfold Entry.value Entry.coefficient
          rw [if_pos hv, zero_mul]
        rw [hnone, hvalue, zero_add]
      | false =>
        have hsome : e.signed? = some ⟨e.k.negative, e.monomial⟩ :=
          if_neg (Bool.eq_false_iff.mp hv)
        rw [hsome, ← e.value_signed hv hunit.1]
        rfl
  rw [← hsum]
  unfold treeOf
  split
  · rename_i hnil
    rw [hnil]
    exact congrArg some hzero
  · rename_i s ss hcons
    rw [hcons]
    exact value?_sumTree s ss literal x

end

/-! ## nothing is refused -/

section
variable {cs : List Char}

theorem lower_polynomial (hcs : ∀ c ∈ cs, isPolynomialChar c = true) : Text.lower cs = cs := by
  have hlow : ∀ c, isPolynomialChar c = true → c.toNat < 0x80 := fun c hc =>
    Polynomial.of_isPolynomialChar (P := fun c => c.toNat < 0x80)
      (fun c hc => Nat.lt_of_le_of_lt (Char.isDigit_iff_toNat.mp hc).2 (by decide))
      (by decide) (by decide) (by decide) (by decide) (by decide) hc
  have hfrom : ∀ before, Text.lowerFrom before cs = cs := by
    induction cs with
    | nil => exact fun _ => rfl
    | cons c cs ih =>
      rw [List.forall_mem_cons] at hcs
      intro before
      rw [Text.lowerFrom, ih hcs.2]
      unfold Text.lowerChar
      rw [if_pos (hlow c hcs.1), Polynomial.toLower_of_isPolynomialChar hcs.1]
      rfl
  exact hfrom []

/-- Every forbidden word has a letter or a low line that is not `x`. -/
theorem forbidden?_polynomial (hcs : ∀ c ∈ cs, isPolynomialChar c = true) :
    forbidden? cs = none := by
  have hforeign : ∀ token ∈ forbiddenTokens,
      ∃ c ∈ token.toList, isPolynomialChar c = false := by
    intro token htoken
    have hall : (forbiddenTokens.all fun t => t.toList.any (!isPolynomialChar ·)) = true := by
      decide
    obtain ⟨c, hc, hforeign⟩ := List.any_eq_true.mp (List.all_eq_true.mp hall token htoken)
    exact ⟨c, hc, Bool.not_eq_true' _ ▸ hforeign⟩
  unfold forbidden?
  rw [lower_polynomial hcs]
  simp only
  rw [List.find?_eq_none]
  intro token htoken hholds
  obtain ⟨c, hc, hnot⟩ := hforeign token htoken
  rw [hcs c (Text.mem_of_holds hholds c hc)] at hnot
  cases hnot

/-- **A polynomial that can be read is a graph expression.** -/
theorem ofText_polynomial {e : Expression} (hne : cs ≠ [])
    (hcs : ∀ c ∈ cs, isPolynomialChar c = true) (hread : Expression.read? cs = some e)
    (hsymbols : e.symbols = []) : Expression.ofText ('y' :: '=' :: cs) = .ok e := by
  have hplain := Category.isPlain_of_polynomial hcs
  have hsource : source ('y' :: '=' :: cs) = cs := by
    unfold source
    rw [(Category.isPlain_y hplain).trim]
    exact hplain.trim
  have hrelation : isRelation cs = false := by
    have hequality : Category.hasEquality cs = false := by
      unfold Category.hasEquality
      rw [List.contains_eq_mem, decide_eq_false_iff_not]
      intro hmem
      exact absurd (hcs '=' hmem) (by decide)
    unfold isRelation
    rw [hplain.comparison, hequality]
    rfl
  have hempty : cs.isEmpty = false := List.isEmpty_eq_false_iff.mpr hne
  unfold Expression.ofText
  simp only [hsource, hempty, forbidden?_polynomial hcs, hrelation, hread, hsymbols]
  rfl

end

end AlgebraDesk.Plot

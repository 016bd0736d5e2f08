import AlgebraDesk.Polynomial.Display
import AlgebraDesk.Proofs.Decimal.Display
import AlgebraDesk.Proofs.Polynomial.Extraction

/-!
# The terms that are printed

What is printed of three coefficients is a sum of written terms, one for each coefficient that is
not left out.  So a polynomial is extracted from it, and each coefficient is the double that its own
text says.

* `Coefficient.ReadsAs`    the double that the text of a coefficient says;
* `Entry`                  a coefficient with its power and this double;
* `displaySum_summands`    the printed sum as a sum of written terms;
* `extract?_displayTerms`  what is extracted from it.
-/

namespace AlgebraDesk

open Decimal (Spells real?)

/-- A coefficient says a double: zero when its term is left out, else what its numeral says behind
its sign, or its sign alone where the numeral is left out. -/
structure Coefficient.ReadsAs (k : Coefficient) (x : Float) : Prop where
  vanishes : k.vanishes = true → x = 0
  numeral : k.vanishes = false → ∃ d, Spells k.numeral d ∧ d.toFloat k.negative = x
  unit : k.vanishes = false → k.isUnit = true → x = if k.negative then -1 else 1
  /-- no negative zero -/
  zero_add : 0 + x = x

namespace Polynomial

/-! ## one term -/

section
variable {k : Coefficient} {x : Float} {power : List Char} {degree : Nat}

/-- The sign of a term; a positive first one has none. -/
def signOf (k : Coefficient) (first : Bool) : List Char :=
  if k.negative then ['-'] else if first then [] else ['+']

/-- The numeral of a term; a unit in front of a variable has none. -/
def numeralOf (k : Coefficient) (power : List Char) : List Char :=
  if !power.isEmpty && k.isUnit then [] else k.numeral

theorem displayTerm_eq (k : Coefficient) (power : List Char) (first : Bool) :
    displayTerm k power first = signOf k first ++ (numeralOf k power ++ power) := by
  have hbody : (if !power.isEmpty && k.isUnit then power else k.numeral ++ power)
      = numeralOf k power ++ power := by
    unfold numeralOf
    split <;> rfl
  unfold displayTerm signOf
  simp only [hbody]
  split
  · rfl
  · split <;> rfl

theorem isSign_signOf (k : Coefficient) (first : Bool) : Decimal.IsSign (signOf k first) := by
  unfold signOf
  split
  · exact .minus
  · split
    · exact .none
    · exact .plus

theorem signOf_beq (k : Coefficient) (first : Bool) : (signOf k first == ['-']) = k.negative := by
  unfold signOf
  cases k.negative <;> cases first <;> rfl

theorem signOf_eq_nil {first : Bool} (h : signOf k first = []) : first = true := by
  unfold signOf at h
  split at h
  · cases h
  · split at h
    · assumption
    · cases h

/-- **A printed term is a written term with the double that the coefficient says.** -/
theorem exists_printed (hmark : Mark power degree) (hk : k.ReadsAs x) (hv : k.vanishes = false)
    (first : Bool) : ∃ t : Summand, t.chars = displayTerm k power first ∧ t.degree = degree ∧
      t.value = x ∧ (t.sign = [] → first = true) := by
  obtain ⟨d, hd, hvalue⟩ := hk.numeral hv
  have hspelled : numeralOf k power = [] ∨ ∃ d, Spells (numeralOf k power) d := by
    unfold numeralOf
    split
    · exact .inl rfl
    · exact .inr ⟨d, hd⟩
  have hconstant : power = [] → numeralOf k power ≠ [] := by
    rintro rfl
    exact hd.ne_nil
  let t : Summand := ⟨signOf k first, numeralOf k power, power, degree, isSign_signOf k first,
    hspelled, hmark, hconstant⟩
  refine ⟨t, (displayTerm_eq k power first).symm, rfl, ?_, signOf_eq_nil⟩
  have hreal : real? (signOf k first ++ if numeralOf k power = [] then ['1'] else numeralOf k power)
      = some t.value := t.real_value
  cases hunit : !power.isEmpty && k.isUnit with
  | true =>
    have hnil : numeralOf k power = [] := if_pos hunit
    rw [if_pos hnil, Summand.spells_one.real (isSign_signOf k first), signOf_beq,
      toFloat_one] at hreal
    rw [hk.unit hv (Bool.and_eq_true _ _ ▸ hunit).2]
    exact (Option.some.inj hreal).symm
  | false =>
    have hnumeral : numeralOf k power = k.numeral := if_neg (Bool.eq_false_iff.mp hunit)
    rw [hnumeral, if_neg hd.ne_nil, hd.real (isSign_signOf k first), signOf_beq, hvalue] at hreal
    exact (Option.some.inj hreal).symm

end

/-! ## the sum -/

/-- A coefficient with its power and the double that it says. -/
structure Entry where
  k : Coefficient
  power : List Char
  degree : Nat
  x : Float
  marked : Mark power degree
  reads : k.ReadsAs x

/-- The doubles that are printed in a degree. -/
def printedIn (degree : Nat) (es : List Entry) : List Float :=
  es.flatMap fun e => if e.degree == degree && !e.k.vanishes then [e.x] else []

theorem displaySum_summands (first : Bool) (es : List Entry) : ∃ ts : List Summand,
    ts.flatMap Summand.chars = displaySum first (es.map fun e => (e.k, e.power)) ∧
      (∀ t ∈ ts.tail, t.sign ≠ []) ∧ (first = false → ∀ t ∈ ts, t.sign ≠ []) ∧
      ∀ degree, valuesOf degree ts = printedIn degree es := by
  induction es generalizing first with
  | nil => exact ⟨[], rfl, nofun, nofun, fun _ => rfl⟩
  | cons e es ih =>
    cases hv : e.k.vanishes with
    | true =>
      obtain ⟨ts, htext, htail, hfirst, hvalues⟩ := ih first
      refine ⟨ts, ?_, htail, hfirst, fun degree => ?_⟩
      · rw [htext, List.map_cons, displaySum, if_pos hv]
      · rw [hvalues]
        unfold printedIn
        rw [List.flatMap_cons, hv, Bool.not_true, Bool.and_false]
        rfl
    | false =>
      obtain ⟨t, hchars, hdegree, hvalue, hsign⟩ := exists_printed e.marked e.reads hv first
      obtain ⟨ts, htext, _, hsigned, hvalues⟩ := ih false
      refine ⟨t :: ts, ?_, hsigned rfl, fun hfirst u hu => ?_, fun degree => ?_⟩
      · rw [List.flatMap_cons, hchars, htext, List.map_cons, displaySum, if_neg (by simp [hv])]
      · rcases List.mem_cons.mp hu with rfl | hu
        · exact fun hnil => absurd (hsign hnil) (by simp [hfirst])
        · exact hsigned rfl u hu
      · have hrest := hvalues degree
        unfold valuesOf printedIn at *
        rw [List.filter_cons, List.flatMap_cons, hv, hdegree]
        cases e.degree == degree with
        | false => exact hrest
        | true =>
          show t.value :: _ = e.x :: _
          rw [hvalue, hrest]
          rfl

/-! ## the whole text -/

/-- Written terms hold no blank, no star and no capital letter. -/
theorem normalize_spelled (ts : List Summand) :
    normalize (ts.flatMap Summand.chars) = ts.flatMap Summand.chars := by
  have hplain : ∀ c ∈ ts.flatMap Summand.chars, Text.isBlank c = false ∧ c ≠ '*' ∧ c ≠ 'X' := by
    intro c hc
    obtain ⟨t, _, hct⟩ := List.mem_flatMap.mp hc
    exact t.plain c hct
  have hkeep : Text.removeBlanks (ts.flatMap Summand.chars) = ts.flatMap Summand.chars :=
    List.filter_eq_self.mpr fun c hc => by rw [(hplain c hc).1]; rfl
  have hstar : (ts.flatMap Summand.chars).filter (· != '*') = ts.flatMap Summand.chars :=
    List.filter_eq_self.mpr fun c hc => bne_iff_ne.mpr (hplain c hc).2.1
  unfold normalize
  rw [hkeep, hstar]
  refine (List.map_congr_left fun c hc => ?_).trans (List.map_id' _)
  exact if_neg fun h => (hplain c hc).2.2 (beq_iff_eq.mp h)

/-- The text of a polynomial without terms. -/
def zeroSummand : Summand where
  sign := []
  numeral := ['0']
  mark := []
  degree := 0
  signed := .none
  spelled := .inr ⟨_, .whole (List.cons_ne_nil _ _) (Decimal.isDigit_of_mem_singleton (by decide))⟩
  marked := .constant
  numeral_ne_nil := fun _ => List.cons_ne_nil _ _

theorem sumOf_printed {k : Coefficient} {x : Float} {ts : List Summand} {degree : Nat}
    (hk : k.ReadsAs x) (h : valuesOf degree ts = if k.vanishes then [] else [x]) :
    sumOf degree ts = x := by
  unfold sumOf
  rw [h]
  cases hv : k.vanishes with
  | true => exact (hk.vanishes hv).symm
  | false => exact hk.zero_add

/-- **From what is printed the doubles are extracted that the coefficients say.** -/
theorem extract?_displayTerms {ka kb kc : Coefficient} {p : Polynomial} (ha : ka.ReadsAs p.a)
    (hb : kb.ReadsAs p.b) (hc : kc.ReadsAs p.c) (hp : p.isFinite = true) :
    extract? (displayTerms ka kb kc) = some p := by
  obtain ⟨ts, htext, htail, _, hvalues⟩ := displaySum_summands true
    [⟨ka, _, 2, p.a, .second, ha⟩, ⟨kb, _, 1, p.b, .simple, hb⟩, ⟨kc, _, 0, p.c, .constant, hc⟩]
  have hsums : sums ts = p := by
    have h2 : sumOf 2 ts = p.a := by
      refine sumOf_printed ha ((hvalues 2).trans ?_)
      cases hv : ka.vanishes <;> simp [printedIn, hv]
    have h1 : sumOf 1 ts = p.b := by
      refine sumOf_printed hb ((hvalues 1).trans ?_)
      cases hv : kb.vanishes <;> simp [printedIn, hv]
    have h0 : sumOf 0 ts = p.c := by
      refine sumOf_printed hc ((hvalues 0).trans ?_)
      cases hv : kc.vanishes <;> simp [printedIn, hv]
    unfold sums
    rw [h2, h1, h0]
  rw [extract?_eq_some]
  unfold displayTerms
  cases ts with
  | nil =>
    -- all three terms are left out
    have hnil : displaySum true [(ka, ['x', '^', '2']), (kb, ['x']), (kc, [])] = [] := htext.symm
    rw [hnil]
    have hzero : sums [zeroSummand] = sums [] := by
      have h0 : sumOf 0 [zeroSummand] = 0 := by decide +kernel
      unfold sums
      rw [h0]
      rfl
    exact ⟨[zeroSummand], nofun, normalize_spelled [zeroSummand], (hzero.trans hsums).symm, hp⟩
  | cons t ts =>
    have hne : (t :: ts).flatMap Summand.chars ≠ [] := by
      rw [List.flatMap_cons]
      exact List.append_ne_nil_of_left_ne_nil
        (List.append_ne_nil_of_right_ne_nil _ t.body_ne_nil) _
    have hshown : displaySum true [(ka, ['x', '^', '2']), (kb, ['x']), (kc, [])]
        = (t :: ts).flatMap Summand.chars := htext.symm
    refine ⟨t :: ts, List.forall_mem_map.mpr htail, ?_, hsums.symm, hp⟩
    split
    · rename_i hnil
      exact absurd (hshown.symm.trans hnil) hne
    · rw [hshown, normalize_spelled]

end Polynomial

end AlgebraDesk

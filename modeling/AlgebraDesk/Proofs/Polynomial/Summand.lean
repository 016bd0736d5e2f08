import AlgebraDesk.Proofs.Decimal.Conversion
import AlgebraDesk.Proofs.Decimal.Numeral
import AlgebraDesk.Proofs.Polynomial.Splitting

/-!
# Terms as they are written

A term is a sign or none, a numeral or none, and the mark of its degree: nothing, `x`, `x^1` or
`x^2`.  A constant has a numeral.  These are just the texts that are read as terms and added.

* `Mark`                     the marks with their degrees;
* `Summand`                  a written term;
* `Summand.value`            the double that its sign and numeral spell, no numeral being `1`;
* `addTerm_chars`            a written term adds its value in its degree;
* `exists_summand`           nothing else is added.
-/

namespace AlgebraDesk.Polynomial

open Decimal (Digits IsSign Spells spanDigits digitsValue real?)

/-! ## numerals at the start of a text -/

section
variable {cs rest : List Char} {d : Digits}

theorem spanDigits_stop (hcs : ∀ c ∈ cs, Text.isDigit c = true)
    (hrest : ∀ c ∈ rest.head?, Text.isDigit c = false) : spanDigits (cs ++ rest) = (cs, rest) := by
  unfold spanDigits
  rw [takeWhile_append_stop hcs hrest, dropWhile_append_stop hcs hrest]

theorem of_spanDigits {ds : List Char} (h : spanDigits cs = (ds, rest)) :
    cs = ds ++ rest ∧ ∀ c ∈ ds, Text.isDigit c = true := by
  have happend := Decimal.spanDigits_append cs
  rw [h] at happend
  refine ⟨happend.symm, fun c hc => ?_⟩
  have hds : ds = cs.takeWhile Text.isDigit := (congrArg Prod.fst h).symm
  rw [hds] at hc
  exact List.mem_takeWhile_imp hc

/-- Digits with no point behind them. -/
theorem spanNumeral_whole {ws : List Char} (hne : ws ≠ []) (hspan : spanDigits cs = (ws, rest))
    (hpoint : rest.head? ≠ some '.') : spanNumeral cs = (some ⟨digitsValue ws, 0⟩, rest) := by
  unfold spanNumeral
  simp only [hspan]
  split
  · exact absurd rfl hpoint
  · exact absurd rfl hne
  · exact absurd rfl hpoint
  · rfl

/-- Digits on one side of a point or on both. -/
theorem spanNumeral_point {ws fs r : List Char} (hne : ws ≠ [] ∨ fs ≠ [])
    (hspan : spanDigits cs = (ws, '.' :: r)) (hfrac : spanDigits r = (fs, rest)) :
    spanNumeral cs = (some ⟨digitsValue (ws ++ fs), -fs.length⟩, rest) := by
  unfold spanNumeral
  simp only [hspan]
  cases ws with
  | nil =>
    simp only [hfrac]
    cases fs with
    | nil => exact absurd rfl (hne.resolve_left (fun h => h rfl))
    | cons f fs => rfl
  | cons w ws => simp only [hfrac]

/-- **A numeral is taken off as a whole** from a text that does not go on with a digit or a
point. -/
theorem spanNumeral_spells (h : Spells cs d)
    (hrest : ∀ c ∈ rest.head?, Decimal.isDecimalChar c = false) :
    spanNumeral (cs ++ rest) = (some d, rest) := by
  have hdigit : ∀ c ∈ rest.head?, Text.isDigit c = false := by
    intro c hc
    exact (Bool.or_eq_false_iff.mp (hrest c hc)).1
  have hpoint : rest.head? ≠ some '.' := by
    intro hc
    exact absurd (hrest '.' hc) (by decide)
  cases h with
  | whole hne hw => exact spanNumeral_whole hne (spanDigits_stop hw hdigit) hpoint
  | point hne hw hf =>
    have hstop : ∀ r, ∀ c ∈ ('.' :: r).head?, Text.isDigit c = false := by
      intro r c hc
      rw [← Option.some.inj hc]
      decide
    rw [List.append_assoc, List.cons_append]
    exact spanNumeral_point hne (spanDigits_stop hw (hstop _)) (spanDigits_stop hf hdigit)

theorem spanNumeral_none (h : ∀ c ∈ cs.head?, Decimal.isDecimalChar c = false) :
    spanNumeral cs = (none, cs) := by
  have hdigit : ∀ c ∈ cs.head?, Text.isDigit c = false := by
    intro c hc
    exact (Bool.or_eq_false_iff.mp (h c hc)).1
  have hspan : spanDigits ([] ++ cs) = ([], cs) := spanDigits_stop nofun hdigit
  rw [List.nil_append] at hspan
  unfold spanNumeral
  simp only [hspan]
  split
  · exact absurd (h '.' rfl) (by decide)
  · rfl
  · contradiction
  · contradiction

/-- What was taken off is a numeral or nothing. -/
theorem of_spanNumeral {numeral? : Option Digits} (h : spanNumeral cs = (numeral?, rest)) :
    ∃ numeral, cs = numeral ++ rest ∧ ((numeral? = none ∧ numeral = []) ∨
      ∃ d, numeral? = some d ∧ Spells numeral d) := by
  unfold spanNumeral at h
  obtain ⟨hcs, hwhole⟩ : cs = (spanDigits cs).1 ++ (spanDigits cs).2 ∧
      ∀ c ∈ (spanDigits cs).1, Text.isDigit c = true := of_spanDigits rfl
  simp only at h
  split at h
  · rename_i r hnil hrest
    rw [hnil, hrest, List.nil_append] at hcs
    split at h
    · cases h
      exact ⟨[], rfl, .inl ⟨rfl, rfl⟩⟩
    · rename_i fs rest' hne hspan
      obtain ⟨hr, hfrac⟩ := of_spanDigits hspan
      cases h
      refine ⟨'.' :: fs, ?_, .inr ⟨_, rfl, ?_⟩⟩
      · rw [hcs, hr, List.cons_append]
      · exact @Spells.point [] fs (.inr hne) nofun hfrac
  · cases h
    exact ⟨[], rfl, .inl ⟨rfl, rfl⟩⟩
  · rename_i r hrest hne
    obtain ⟨hr, hfrac⟩ : r = (spanDigits r).1 ++ (spanDigits r).2 ∧
        ∀ c ∈ (spanDigits r).1, Text.isDigit c = true := of_spanDigits rfl
    rw [hrest] at hcs
    cases h
    refine ⟨(spanDigits cs).1 ++ '.' :: (spanDigits r).1, ?_, .inr ⟨_, rfl, ?_⟩⟩
    · rw [List.append_assoc, List.cons_append, ← hr]
      exact hcs
    · exact Spells.point (.inl hne) hwhole hfrac
  · rename_i hne _ _
    cases h
    exact ⟨(spanDigits cs).1, hcs, .inr ⟨_, rfl, .whole hne hwhole⟩⟩

end

/-! ## written terms -/

/-- How a term goes on behind its numeral, with its degree. -/
inductive Mark : List Char → Nat → Prop where
  | constant : Mark [] 0
  | simple : Mark ['x'] 1
  | first : Mark ['x', '^', '1'] 1
  | second : Mark ['x', '^', '2'] 2

section
variable {mark : List Char} {degree : Nat}

theorem Mark.stop (h : Mark mark degree) : ∀ c ∈ mark.head?, Decimal.isDecimalChar c = false := by
  intro c hc
  cases h <;> cases hc <;> decide

theorem Mark.not_sign (h : Mark mark degree) : ∀ c ∈ mark, isSign c = false := by
  cases h <;> simp [isSign]

theorem Mark.plain (h : Mark mark degree) :
    ∀ c ∈ mark, Text.isBlank c = false ∧ c ≠ '*' ∧ c ≠ 'X' := by
  have hplain : ∀ c ∈ ['x', '^', '1', '2'], Text.isBlank c = false ∧ c ≠ '*' ∧ c ≠ 'X' := by
    rw [List.forall_mem_cons, List.forall_mem_cons, List.forall_mem_cons, List.forall_mem_singleton]
    refine ⟨?_, ?_, ?_, ?_⟩ <;> exact ⟨by decide, by decide, by decide⟩
  have hmark : mark ⊆ ['x', '^', '1', '2'] := by cases h <;> simp
  exact fun c hc => hplain c (hmark hc)

end

structure Summand where
  sign : List Char
  numeral : List Char
  mark : List Char
  degree : Nat
  signed : IsSign sign
  spelled : numeral = [] ∨ ∃ d, Spells numeral d
  marked : Mark mark degree
  /-- a constant has a numeral -/
  numeral_ne_nil : mark = [] → numeral ≠ []

namespace Summand

def chars (t : Summand) : List Char := t.sign ++ (t.numeral ++ t.mark)

/-- The signed numeral, a missing one being `1`. -/
def coefficientChars (t : Summand) : List Char :=
  t.sign ++ if t.numeral = [] then ['1'] else t.numeral

/-- The double that is read from the signed numeral. -/
def value (t : Summand) : Float := (real? t.coefficientChars).getD 0

theorem spells_one : Spells ['1'] ⟨1, 0⟩ := by
  have hvalue : digitsValue ['1'] = 1 := by decide
  have hdigit : Text.isDigit '1' = true := by decide
  have h := Spells.whole (List.cons_ne_nil _ _) (Decimal.isDigit_of_mem_singleton hdigit)
  rwa [hvalue] at h

variable (t : Summand)

/-- **The signed numeral of a term is a number.** -/
theorem real_value : real? t.coefficientChars = some t.value := by
  have hspells : ∃ d, Spells (if t.numeral = [] then ['1'] else t.numeral) d := by
    rcases t.spelled with h | ⟨d, h⟩
    · rw [if_pos h]
      exact ⟨_, spells_one⟩
    · rw [if_neg h.ne_nil]
      exact ⟨d, h⟩
  obtain ⟨d, hd⟩ := hspells
  have hreal := hd.real t.signed
  unfold value coefficientChars
  rw [hreal]
  rfl

theorem numeral_plain : ∀ c ∈ t.numeral, Decimal.isDecimalChar c = true := by
  rcases t.spelled with h | ⟨d, h⟩
  · rw [h]
    exact nofun
  · exact h.plain

/-- No sign stands behind the first character. -/
theorem body_not_sign : ∀ c ∈ t.numeral ++ t.mark, isSign c = false := by
  intro c hc
  rcases List.mem_append.mp hc with h | h
  · have hplain := t.numeral_plain c h
    unfold isSign
    rw [beq_false_of_ne (ne_of_class hplain (by decide)),
      beq_false_of_ne (ne_of_class hplain (by decide))]
    rfl
  · exact t.marked.not_sign c h

/-- No blank, no star and no capital letter. -/
theorem plain : ∀ c ∈ t.chars, Text.isBlank c = false ∧ c ≠ '*' ∧ c ≠ 'X' := by
  intro c hc
  rcases List.mem_append.mp hc with h | h
  · rcases t.signed.mem c h with rfl | rfl <;> decide
  · rcases List.mem_append.mp h with h | h
    · have hplain := t.numeral_plain c h
      exact ⟨Decimal.isBlank_of_isDecimalChar hplain, ne_of_class hplain (by decide),
        ne_of_class hplain (by decide)⟩
    · exact t.marked.plain c h

theorem body_ne_nil : t.numeral ++ t.mark ≠ [] := by
  intro h
  obtain ⟨hnumeral, hmark⟩ := List.append_eq_nil_iff.mp h
  exact t.numeral_ne_nil hmark hnumeral

theorem isSigned_chars : IsSigned t.chars ↔ t.sign ≠ [] := isSigned_signed t.signed t.body_not_sign

end Summand

/-! ## reading and adding -/

/-- The sums with one more coefficient. -/
def plus (p : Polynomial) (degree : Nat) (x : Float) : Polynomial :=
  match degree with
  | 0 => { p with c := p.c + x }
  | 1 => { p with b := p.b + x }
  | _ => { p with a := p.a + x }

theorem toFloat_one (negative : Bool) :
    (⟨1, 0⟩ : Digits).toFloat negative = if negative then -1 else 1 := by
  cases negative <;> decide +kernel

/-- A term is read as its sign, its numeral and its mark. -/
theorem read?_chars (t : Summand) : ∃ numeral?,
    Term.read? t.chars = (readPower? t.mark).map (⟨t.sign == ['-'], numeral?, ·⟩) ∧
      (numeral? = none → t.numeral = []) ∧
      ∀ power, (⟨t.sign == ['-'], numeral?, power⟩ : Term).coefficient = t.value := by
  have hread : Term.read? t.chars = (readPower? (spanNumeral (t.numeral ++ t.mark)).2).map
      (⟨t.sign == ['-'], (spanNumeral (t.numeral ++ t.mark)).1, ·⟩) := by
    unfold Term.read? Summand.chars
    rw [Decimal.splitSign_append t.signed (head_not_sign t.body_not_sign)]
  have hvalue := t.real_value
  unfold Summand.coefficientChars at hvalue
  rw [hread]
  rcases t.spelled with hnil | ⟨d, hd⟩
  · rw [if_pos hnil, Summand.spells_one.real t.signed, toFloat_one] at hvalue
    rw [hnil, List.nil_append, spanNumeral_none t.marked.stop]
    exact ⟨none, rfl, fun _ => rfl, fun _ => Option.some.inj hvalue⟩
  · rw [if_neg hd.ne_nil, hd.real t.signed] at hvalue
    rw [spanNumeral_spells hd t.marked.stop]
    exact ⟨some d, rfl, nofun, fun _ => Option.some.inj hvalue⟩

/-- **A written term adds its value in its degree.** -/
theorem addTerm_chars (p : Polynomial) (t : Summand) :
    addTerm p t.chars = .ok (p.plus t.degree t.value) := by
  obtain ⟨numeral?, hread, hnone, hvalue⟩ := read?_chars t
  have hconstant := t.numeral_ne_nil
  have hmark := t.marked
  unfold addTerm
  rw [hread]
  generalize t.mark = mark at *
  generalize t.degree = degree at *
  cases hmark with
  | constant =>
    have hsome : numeral?.isNone = false := by
      cases numeral? with
      | none => exact absurd (hnone rfl) (hconstant rfl)
      | some d => rfl
    simp only [readPower?, Option.map_some, hsome, hvalue]
    rfl
  | simple =>
    simp only [readPower?, Option.map_some, hvalue]
    rfl
  | first =>
    have hpower : readPower? ['x', '^', '1'] = some (.raised ['1']) := by decide
    simp only [hpower, Option.map_some, hvalue]
    rfl
  | second =>
    have hpower : readPower? ['x', '^', '2'] = some (.raised ['2']) := by decide
    simp only [hpower, Option.map_some, hvalue]
    rfl

theorem of_readPower {cs : List Char} {power : Power} (h : readPower? cs = some power) :
    (power = .constant ∧ cs = []) ∨ (power = .variable ∧ cs = ['x']) ∨
      ∃ exponent, power = .raised exponent ∧ cs = 'x' :: '^' :: exponent := by
  unfold readPower? at h
  split at h
  · cases h
    exact .inl ⟨rfl, rfl⟩
  · cases h
    exact .inr (.inl ⟨rfl, rfl⟩)
  · split at h
    · cases h
      exact .inr (.inr ⟨_, rfl, rfl⟩)
    · cases h
  · cases h

/-- The parts of a text that is read as a term. -/
theorem of_read? {cs : List Char} {term : Term} (h : Term.read? cs = some term) :
    ∃ sign numeral mark, IsSign sign ∧ cs = sign ++ (numeral ++ mark) ∧
      term.negative = (sign == ['-']) ∧ readPower? mark = some term.power ∧
        ((term.numeral? = none ∧ numeral = []) ∨
          ∃ d, term.numeral? = some d ∧ Spells numeral d) := by
  rcases hsplit : Decimal.splitSign cs with ⟨negative, body⟩
  rcases hspan : spanNumeral body with ⟨numeral?, mark⟩
  obtain ⟨sign, hsign, hcs, hnegative⟩ := Decimal.of_splitSign hsplit
  obtain ⟨numeral, hbody, hnumeral⟩ := of_spanNumeral hspan
  unfold Term.read? at h
  rw [hsplit] at h
  simp only [hspan] at h
  obtain ⟨power, hpower, rfl⟩ := Option.map_eq_some_iff.mp h
  exact ⟨sign, numeral, mark, hsign, by rw [hcs, hbody], hnegative, hpower, hnumeral⟩

/-- **Nothing but a written term is added.** -/
theorem exists_summand {p q : Polynomial} {cs : List Char} (h : addTerm p cs = .ok q) :
    ∃ t : Summand, t.chars = cs := by
  unfold addTerm at h
  split at h
  · cases h
  · rename_i term hread
    obtain ⟨sign, numeral, mark, hsign, rfl, _, hpower, hnumeral⟩ := of_read? hread
    have hspelled : numeral = [] ∨ ∃ d, Spells numeral d :=
      hnumeral.imp And.right fun ⟨d, _, hd⟩ => ⟨d, hd⟩
    have build : ∀ degree, Mark mark degree → (mark = [] → numeral ≠ []) →
        ∃ t : Summand, t.chars = sign ++ (numeral ++ mark) := fun degree hmark hne =>
      ⟨⟨sign, numeral, mark, degree, hsign, hspelled, hmark, hne⟩, rfl⟩
    rcases of_readPower hpower with ⟨hp, rfl⟩ | ⟨hp, rfl⟩ | ⟨exponent, hp, rfl⟩
    · refine build 0 .constant fun _ hnil => ?_
      rcases hnumeral with ⟨hnone, _⟩ | ⟨d, _, hd⟩
      · rw [hp, hnone] at h
        cases h
      · exact hd.ne_nil hnil
    · exact build 1 .simple nofun
    · rw [hp] at h
      simp only at h
      split at h
      · rename_i hone
        subst hone
        exact build 1 .first nofun
      · split at h
        · rename_i htwo
          subst htwo
          exact build 2 .second nofun
        · cases h

end AlgebraDesk.Polynomial

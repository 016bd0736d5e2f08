import AlgebraDesk.Calculator.Scan
import AlgebraDesk.Proofs.Decimal.Numeral

/-!
# Numerals of the calculator

* `IsLiteral`            the form `-?[0-9]*\.?[0-9]+`, as the parts of a text;
* `isNumeral_iff`        the test finds just this form;
* `exists_numeralValue`  a numeral has a value;
* `numberToken_eq_ok`    the numerals that become tokens.
-/

namespace AlgebraDesk.Calculator

/-- `-?[0-9]*\.?[0-9]+` -/
def IsLiteral (cs : List Char) : Prop :=
  ∃ sign whole point frac : List Char, cs = sign ++ (whole ++ (point ++ frac)) ∧
    (sign = [] ∨ sign = ['-']) ∧ (point = [] ∨ point = ['.']) ∧
    (∀ c ∈ whole, c.isDigit = true) ∧ frac ≠ [] ∧ ∀ c ∈ frac, c.isDigit = true

/-! ## the form -/

theorem isUnsignedNumeral_iff (cs : List Char) : isUnsignedNumeral cs = true ↔
    ∃ whole point frac : List Char, cs = whole ++ (point ++ frac) ∧ (point = [] ∨ point = ['.']) ∧
      (∀ c ∈ whole, c.isDigit = true) ∧ frac ≠ [] ∧ ∀ c ∈ frac, c.isDigit = true := by
  have hcs := List.takeWhile_append_dropWhile (p := Char.isDigit) (l := cs)
  have hwhole : ∀ c ∈ cs.takeWhile Char.isDigit, c.isDigit = true :=
    List.all_eq_true.mp List.all_takeWhile
  unfold isUnsignedNumeral
  constructor
  · intro h
    split at h
    · rename_i hd
      rw [hd, List.append_nil] at hcs
      refine ⟨[], [], cs, rfl, .inl rfl, nofun, ?_, hcs ▸ hwhole⟩
      simpa using h
    · rename_i ds hd
      rw [hd] at hcs
      have hds : ds ≠ [] ∧ ∀ c ∈ ds, c.isDigit = true := by simpa using h
      exact ⟨_, ['.'], ds, hcs.symm, .inr rfl, hwhole, hds.1, hds.2⟩
    · cases h
  · rintro ⟨whole, point, frac, rfl, rfl | rfl, hw, hne, hf⟩
    · have hd : (whole ++ ([] ++ frac)).dropWhile Char.isDigit = [] :=
        dropWhile_all (fun c hc => (List.mem_append.mp hc).elim (hw c) (hf c))
      rw [hd]
      simp [hne]
    · have hd : (whole ++ (['.'] ++ frac)).dropWhile Char.isDigit = '.' :: frac :=
        dropWhile_append_stop hw (fun c hc => by cases hc; decide)
      rw [hd]
      simpa [hne] using hf

/-- Behind its sign a numeral has digits and a point. -/
theorem digit_or_point {whole point frac : List Char} (hp : point = [] ∨ point = ['.'])
    (hw : ∀ c ∈ whole, c.isDigit = true) (hf : ∀ c ∈ frac, c.isDigit = true) :
    ∀ c ∈ whole ++ (point ++ frac), c.isDigit = true ∨ c = '.' := by
  intro c hc
  rcases List.mem_append.mp hc with h | h
  · exact .inl (hw c h)
  · rcases List.mem_append.mp h with h | h
    · rcases hp with rfl | rfl
      · cases h
      · exact .inr (List.mem_singleton.mp h)
    · exact .inl (hf c h)

theorem isNumeral_iff (cs : List Char) : isNumeral cs = true ↔ IsLiteral cs := by
  unfold isNumeral
  split
  · rename_i cs
    rw [isUnsignedNumeral_iff]
    constructor
    · rintro ⟨whole, point, frac, rfl, hp, hw, hne, hf⟩
      exact ⟨['-'], whole, point, frac, rfl, .inr rfl, hp, hw, hne, hf⟩
    · rintro ⟨sign, whole, point, frac, e, rfl | rfl, hp, hw, hne, hf⟩
      · -- without a sign the text would begin with a digit or a point
        have hmem : '-' ∈ [] ++ (whole ++ (point ++ frac)) := by rw [← e]; exact List.mem_cons_self
        exact absurd (digit_or_point hp hw hf '-' hmem) (by decide)
      · exact ⟨whole, point, frac, (List.cons.inj e).2, hp, hw, hne, hf⟩
  · rename_i hsign
    rw [isUnsignedNumeral_iff]
    constructor
    · rintro ⟨whole, point, frac, rfl, hp, hw, hne, hf⟩
      exact ⟨[], whole, point, frac, rfl, .inl rfl, hp, hw, hne, hf⟩
    · rintro ⟨sign, whole, point, frac, rfl, rfl | rfl, hp, hw, hne, hf⟩
      · exact ⟨whole, point, frac, rfl, hp, hw, hne, hf⟩
      · exact absurd rfl (hsign _)

/-- A sign or a character of a number, then characters of a number; a minus sign behind it is an
operator. -/
theorem IsLiteral.shape {cs : List Char} (h : IsLiteral cs) :
    ∃ c run, cs = c :: run ∧ (c = '-' ∨ isNumberChar c = true) ∧
      (∀ d ∈ run, isNumberChar d = true) ∧ opensOperand cs.getLast? = false := by
  obtain ⟨sign, whole, point, frac, rfl, hs, hp, hw, hne, hf⟩ := h
  have hnumber : ∀ d ∈ whole ++ (point ++ frac), isNumberChar d = true := by
    intro d hd
    unfold isNumberChar
    rcases digit_or_point hp hw hf d hd with h | rfl
    · rw [h, Bool.true_or]
    · rfl
  have hlast : opensOperand (sign ++ (whole ++ (point ++ frac))).getLast? = false := by
    obtain ⟨ds, d, rfl⟩ : ∃ ds d, frac = ds ++ [d] :=
      ⟨frac.dropLast, frac.getLast hne, (List.dropLast_concat_getLast hne).symm⟩
    have hd : d.isDigit = true := hf d (by simp)
    rw [← List.append_assoc, ← List.append_assoc, ← List.append_assoc, List.getLast?_concat]
    unfold opensOperand
    simp [ne_of_class hd]
  obtain ⟨d, ds, hbody⟩ : ∃ d ds, whole ++ (point ++ frac) = d :: ds :=
    List.exists_cons_of_ne_nil (by simp [hne])
  rcases hs with rfl | rfl
  · refine ⟨d, ds, hbody, .inr ?_, ?_, hlast⟩
    · exact hnumber d (by rw [hbody]; exact List.mem_cons_self)
    · exact fun e he => hnumber e (by rw [hbody]; exact List.mem_cons_of_mem _ he)
  · exact ⟨'-', whole ++ (point ++ frac), rfl, .inl rfl, hnumber, hlast⟩

/-! ## the value -/

/-- **A numeral has a value**, if maybe an infinite one. -/
theorem exists_numeralValue {cs : List Char} (h : isNumeral cs = true) :
    ∃ x, numeralValue cs = .ok x := by
  obtain ⟨sign, whole, point, frac, rfl, hs, hp, hw, hne, hf⟩ := (isNumeral_iff cs).mp h
  have hw' : ∀ c ∈ whole, Text.isDigit c = true := fun c hc => Decimal.isDigit_of_ascii (hw c hc)
  have hf' : ∀ c ∈ frac, Text.isDigit c = true := fun c hc => Decimal.isDigit_of_ascii (hf c hc)
  have hbody : ∀ c ∈ whole ++ (point ++ frac), Decimal.isDecimalChar c = true := by
    intro c hc
    unfold Decimal.isDecimalChar
    rcases digit_or_point hp hw hf c hc with h | rfl
    · rw [Decimal.isDigit_of_ascii h, Bool.true_or]
    · rfl
  obtain ⟨d, hd⟩ : ∃ d, Decimal.unsigned? (whole ++ (point ++ frac)) = some d := by
    rcases hp with rfl | rfl
    · refine ⟨_, Decimal.unsigned_whole (by simp [hne]) (fun c hc => ?_)⟩
      exact (List.mem_append.mp hc).elim (hw' c) (hf' c)
    · exact ⟨_, Decimal.unsigned_point hw' (.inr hne) hf'⟩
  refine ⟨d.toFloat (sign == ['-']), ?_⟩
  have hsign : Decimal.IsSign sign := by
    rcases hs with rfl | rfl
    · exact .none
    · exact .minus
  unfold numeralValue
  rw [Decimal.real_plain hsign hbody, hd]
  rfl

/-- The doubles that a numeral of the calculator may stand for. -/
theorem hasFiniteValue_iff (cs : List Char) :
    hasFiniteValue cs = true ↔ ∃ x, numeralValue cs = .ok x ∧ x.isFinite = true := by
  unfold hasFiniteValue
  cases numeralValue cs with
  | error f => exact ⟨nofun, fun ⟨_, h, _⟩ => nomatch h⟩
  | ok x => exact ⟨fun h => ⟨x, rfl, h⟩, fun ⟨_, h, hx⟩ => by cases h; exact hx⟩

theorem numberToken_eq_ok {cs : List Char} {t : Token} : numberToken cs = .ok t ↔
    t = .number cs ∧ isNumeral cs = true ∧ hasFiniteValue cs = true := by
  unfold numberToken
  cases isNumeral cs with
  | false => exact ⟨nofun, fun ⟨_, h, _⟩ => nomatch h⟩
  | true =>
    cases hasFiniteValue cs with
    | false => exact ⟨nofun, fun ⟨_, _, h⟩ => nomatch h⟩
    | true => exact ⟨fun h => by cases h; exact ⟨rfl, rfl, rfl⟩, fun ⟨h, _⟩ => by rw [h]; rfl⟩

end AlgebraDesk.Calculator

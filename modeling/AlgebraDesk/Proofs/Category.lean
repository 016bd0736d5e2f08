import AlgebraDesk.Category
import AlgebraDesk.Proofs.Polynomial.Written
import AlgebraDesk.Proofs.Text

/-!
# The category of a printed polynomial

A printed polynomial with `y=` or `f(x)=` in front is a function, and one that is set equal to zero
is an equation: no earlier rule applies to these texts.

* `ofTrimmed_system`, `ofTrimmed_derivative`, `ofTrimmed_function`, `ofTrimmed_equation`,
  `ofTrimmed_bare`                 when a rule is reached;
* `IsPlain`                        texts without blanks and comparisons;
* `classify_y`, `classify_f`       functions;
* `silent_rules`, `head_rules`     no keyword stands at the beginning of a polynomial;
* `classify_equation`              equations;
* `classify_of_comparison`         a comparison sign leaves four categories.
-/

namespace AlgebraDesk.Category

open AlgebraDesk.Polynomial (isPolynomialChar)
open Text (sameLetter dropKeyword? dropExactly? trimStart)

section
variable {cs : List Char}

/-! ## the rules in order -/

theorem ofTrimmed_system (hempty : cs.isEmpty = false) (hline : cs.contains '\n' = true)
    (hequality : hasEquality cs = true) : ofTrimmed cs = .system := by
  unfold ofTrimmed rules
  simp only [List.find?_cons, hempty, hline, hequality, Bool.and_self]
  rfl

theorem ofTrimmed_derivative (hempty : cs.isEmpty = false) (hline : cs.contains '\n' = false)
    (hderivative : (dropDerivative? cs).isSome = true) : ofTrimmed cs = .derivative := by
  unfold ofTrimmed rules
  simp only [List.find?_cons, hempty, hline, Bool.false_and, hderivative]
  rfl

theorem ofTrimmed_function (hempty : cs.isEmpty = false) (hline : cs.contains '\n' = false)
    (hderivative : dropDerivative? cs = none) (hintegral : startsWithIntegral cs = false)
    (hcomparison : hasComparison cs = false) (hfunction : (dropFunction? cs).isSome = true) :
    ofTrimmed cs = .function := by
  unfold ofTrimmed rules
  simp only [List.find?_cons, hempty, hline, Bool.false_and, hderivative, hintegral, hcomparison,
    hfunction]
  rfl

theorem ofTrimmed_equation (hempty : cs.isEmpty = false) (hline : cs.contains '\n' = false)
    (hderivative : dropDerivative? cs = none) (hintegral : startsWithIntegral cs = false)
    (hcomparison : hasComparison cs = false) (hfunction : dropFunction? cs = none)
    (hequality : hasEquality cs = true) : ofTrimmed cs = .equation := by
  unfold ofTrimmed rules
  simp only [List.find?_cons, hempty, hline, Bool.false_and, hderivative, hintegral, hcomparison,
    hfunction, hequality]
  rfl

/-- The last rule: an expression with a variable and without any sign. -/
theorem ofTrimmed_bare (hempty : cs.isEmpty = false) (hline : cs.contains '\n' = false)
    (hderivative : dropDerivative? cs = none) (hintegral : startsWithIntegral cs = false)
    (hcomparison : hasComparison cs = false) (hfunction : dropFunction? cs = none)
    (hequality : hasEquality cs = false) (hvariable : (cs.contains 'x' || cs.contains 'X') = true) :
    ofTrimmed cs = .function := by
  unfold ofTrimmed rules
  simp only [List.find?_cons, hempty, hline, Bool.false_and, hderivative, hintegral, hcomparison,
    hfunction, hequality, hvariable]
  rfl

/-! ## plain texts -/

/-- Neither a blank, which includes the ends of lines, nor a comparison. -/
def isPlainChar (c : Char) : Bool := !Text.isBlank c && !isComparison c

def IsPlain (cs : List Char) : Prop := cs.all isPlainChar = true

theorem IsPlain.append {ds : List Char} (h : IsPlain cs) (h' : IsPlain ds) :
    IsPlain (cs ++ ds) := by
  unfold IsPlain at *
  rw [List.all_append, h, h']
  rfl

theorem IsPlain.of_mem (h : IsPlain cs) :
    ∀ c ∈ cs, Text.isBlank c = false ∧ isComparison c = false := by
  intro c hc
  have hplain := List.all_eq_true.mp h c hc
  unfold isPlainChar at hplain
  rw [Bool.and_eq_true, Bool.not_eq_true', Bool.not_eq_true'] at hplain
  exact hplain

theorem IsPlain.trim (h : IsPlain cs) : Text.trim cs = cs :=
  Text.trim_of_plain fun c hc => (h.of_mem c hc).1

theorem IsPlain.newline (h : IsPlain cs) : cs.contains '\n' = false := by
  rw [List.contains_eq_mem, decide_eq_false_iff_not]
  intro hmem
  have hblank := (h.of_mem _ hmem).1
  rw [Text.isBlank_newline] at hblank
  cases hblank

theorem IsPlain.comparison (h : IsPlain cs) : hasComparison cs = false := by
  unfold hasComparison
  rw [List.any_eq_false]
  intro c hc
  rw [(h.of_mem c hc).2]
  exact Bool.false_ne_true

theorem beq_of_isPolynomialChar {c : Char} (h : isPolynomialChar c = true) (d : Char)
    (hd : isPolynomialChar d = false) : (c == d) = false :=
  beq_eq_false_iff_ne.mpr (ne_of_class h hd)

theorem isPlain_of_polynomial (hcs : ∀ c ∈ cs, isPolynomialChar c = true) : IsPlain cs := by
  refine List.all_eq_true.mpr fun c hc => ?_
  have hcomparison : isComparison c = false := by
    unfold isComparison
    rw [beq_of_isPolynomialChar (hcs c hc) '<' (by decide),
      beq_of_isPolynomialChar (hcs c hc) '>' (by decide),
      beq_of_isPolynomialChar (hcs c hc) '≤' (by decide),
      beq_of_isPolynomialChar (hcs c hc) '≥' (by decide)]
    rfl
  unfold isPlainChar
  rw [Polynomial.isBlank_of_isPolynomialChar (hcs c hc), hcomparison]
  rfl

/-! ## functions -/

theorem dropFunction?_y (cs : List Char) : dropFunction? ('y' :: '=' :: cs) = some cs := rfl

theorem dropFunction?_f (cs : List Char) : dropFunction? ("f(x)=".toList ++ cs) = some cs := rfl

theorem isPlain_y (h : IsPlain cs) : IsPlain ('y' :: '=' :: cs) :=
  IsPlain.append (show IsPlain ['y', '='] by unfold IsPlain; decide) h

theorem isPlain_f (h : IsPlain cs) : IsPlain ("f(x)=".toList ++ cs) :=
  IsPlain.append (by unfold IsPlain; decide) h

theorem classify_y (h : IsPlain cs) : classify ('y' :: '=' :: cs) = .function := by
  have hplain := isPlain_y h
  unfold classify
  rw [hplain.trim]
  exact ofTrimmed_function rfl hplain.newline rfl rfl hplain.comparison rfl

theorem classify_f (h : IsPlain cs) : classify ("f(x)=".toList ++ cs) = .function := by
  have hplain := isPlain_f h
  unfold classify
  rw [hplain.trim]
  exact ofTrimmed_function rfl hplain.newline rfl rfl hplain.comparison rfl

/-! ## equations -/

/-- Neither a blank nor the beginning of a keyword or of a function. -/
def isSilent (c : Char) : Bool :=
  !Text.isBlank c && !sameLetter 'd' c && !sameLetter 'i' c && c != '∫' && c != 'f' && c != 'y'

/-- No rule that looks at the beginning of a text applies. -/
theorem silent_rules {c : Char} (hc : isSilent c = true) (rest : List Char) :
    dropDerivative? (c :: rest) = none ∧ startsWithIntegral (c :: rest) = false ∧
      dropFunction? (c :: rest) = none := by
  unfold isSilent at hc
  simp only [Bool.and_eq_true, Bool.not_eq_true', bne_iff_ne, ne_eq] at hc
  obtain ⟨⟨⟨⟨⟨hblank, hd⟩, hi⟩, hsign⟩, hf⟩, hy⟩ := hc
  have hkeyword : ∀ {k : Char}, sameLetter k c = false →
      ∀ d ∈ (c :: rest).head?, sameLetter k d = false := by
    intro k hk d hmem
    cases hmem
    exact hk
  have hexact : ∀ {k : Char}, c ≠ k → (c :: rest).head? ≠ some k :=
    fun hk h => hk (Option.some.inj h)
  have htrim : trimStart (c :: rest) = c :: rest := by
    refine Text.trimStart_of_head fun d hmem => ?_
    cases hmem
    exact hblank
  refine ⟨?_, ?_, ?_⟩
  · show (dropKeyword? ['d', '/', 'd', 'x'] _).or
      (dropKeyword? ['d', 'e', 'r', 'i', 'v', 'a', 't', 'i', 'v', 'e'] _) = none
    rw [Text.dropKeyword?_eq_none (hkeyword hd), Text.dropKeyword?_eq_none (hkeyword hd)]
    rfl
  · show ((c :: rest).head? == some '∫'
      || (dropKeyword? ['i', 'n', 't', 'e', 'g', 'r', 'a', 'l'] _).isSome) = false
    rw [Text.dropKeyword?_eq_none (hkeyword hi), beq_eq_false_iff_ne.mpr (hexact hsign)]
    rfl
  · unfold dropFunction?
    rw [htrim]
    show ((dropExactly? ['f', '(', 'x', ')'] _).or (dropExactly? ['y'] _) >>= fun rest => _) = none
    rw [Text.dropExactly?_eq_none (hexact hf), Text.dropExactly?_eq_none (hexact hy)]
    rfl

theorem isSilent_of_isPolynomialChar {c : Char} (h : isPolynomialChar c = true) :
    isSilent c = true := by
  have hletter : ∀ k, isPolynomialChar k = false → sameLetter k c = false := by
    intro k hk
    unfold sameLetter
    rw [Polynomial.toLower_of_isPolynomialChar h, beq_of_isPolynomialChar h k hk,
      beq_of_isPolynomialChar h 'ı' (by decide), beq_of_isPolynomialChar h 'İ' (by decide)]
    exact Bool.and_false _
  unfold isSilent bne
  rw [Polynomial.isBlank_of_isPolynomialChar h, hletter 'd' (by decide), hletter 'i' (by decide),
    beq_of_isPolynomialChar h '∫' (by decide), beq_of_isPolynomialChar h 'f' (by decide),
    beq_of_isPolynomialChar h 'y' (by decide)]
  rfl

theorem head_rules (hne : cs ≠ []) (hcs : ∀ c ∈ cs, isPolynomialChar c = true) (rest : List Char) :
    dropDerivative? (cs ++ rest) = none ∧ startsWithIntegral (cs ++ rest) = false ∧
      dropFunction? (cs ++ rest) = none := by
  obtain ⟨c, cs, rfl⟩ := List.exists_cons_of_ne_nil hne
  exact silent_rules (isSilent_of_isPolynomialChar (hcs c List.mem_cons_self)) (cs ++ rest)

theorem isPlain_equation (h : IsPlain cs) : IsPlain (cs ++ ['=', '0']) :=
  h.append (by unfold IsPlain; decide)

theorem classify_equation (hne : cs ≠ []) (hcs : ∀ c ∈ cs, isPolynomialChar c = true) :
    classify (cs ++ ['=', '0']) = .equation := by
  have hplain := isPlain_equation (isPlain_of_polynomial hcs)
  obtain ⟨hderivative, hintegral, hfunction⟩ := head_rules hne hcs ['=', '0']
  have hempty : (cs ++ ['=', '0']).isEmpty = false := by
    rw [List.isEmpty_eq_false_iff]
    exact List.append_ne_nil_of_left_ne_nil hne _
  have hequality : hasEquality (cs ++ ['=', '0']) = true :=
    List.contains_iff_mem.mpr (List.mem_append_right _ List.mem_cons_self)
  unfold classify
  rw [hplain.trim]
  exact ofTrimmed_equation hempty hplain.newline hderivative hintegral hplain.comparison hfunction
    hequality

/-! ## comparisons -/

theorem hasComparison_append (cs ds : List Char) :
    hasComparison (cs ++ ds) = (hasComparison cs || hasComparison ds) := List.any_append

theorem hasComparison_of_class (h : ∀ c ∈ cs, isComparison c = false) :
    hasComparison cs = false := by
  unfold hasComparison
  rw [List.any_eq_false]
  intro c hc
  rw [h c hc]
  exact Bool.false_ne_true

theorem ne_nil_of_comparison (h : hasComparison cs = true) : cs ≠ [] := by
  rintro rfl
  cases h

theorem isComparison_of_isBlank {c : Char} (h : Text.isBlank c = true) : isComparison c = false := by
  rw [← Bool.not_eq_true]
  intro hc
  simp only [isComparison, Bool.or_eq_true, beq_iff_eq] at hc
  rcases hc with ((rfl | rfl) | rfl) | rfl <;> exact absurd h (by decide)

theorem hasComparison_blank (h : Text.IsBlankText cs) : hasComparison cs = false :=
  hasComparison_of_class fun c hc => isComparison_of_isBlank (h c hc)

theorem hasComparison_trim (cs : List Char) : hasComparison (Text.trim cs) = hasComparison cs := by
  obtain ⟨front, back, hcs, hfront, hback⟩ := Text.exists_trim cs
  conv => rhs; rw [hcs]
  rw [hasComparison_append, hasComparison_append, hasComparison_blank hfront,
    hasComparison_blank hback, Bool.or_false, Bool.false_or]

theorem classify_trim (cs : List Char) : classify (Text.trim cs) = classify cs := by
  unfold classify
  rw [Text.trim_trim]

/-- **The rules before the one for inequalities** are all that a comparison sign can meet. -/
theorem classify_of_comparison (h : hasComparison cs = true) :
    classify cs = .system ∨ classify cs = .derivative ∨ classify cs = .integral ∨
      classify cs = .inequality := by
  have htrim : hasComparison (Text.trim cs) = true := (hasComparison_trim cs).trans h
  have hempty : (Text.trim cs).isEmpty = false :=
    List.isEmpty_eq_false_iff.mpr (ne_nil_of_comparison htrim)
  unfold classify ofTrimmed rules
  simp only [List.find?_cons, hempty, htrim]
  cases (Text.trim cs).contains '\n' && hasEquality (Text.trim cs) with
  | true => exact .inl rfl
  | false =>
    cases (dropDerivative? (Text.trim cs)).isSome with
    | true => exact .inr (.inl rfl)
    | false =>
      cases startsWithIntegral (Text.trim cs) with
      | true => exact .inr (.inr (.inl rfl))
      | false => exact .inr (.inr (.inr rfl))

theorem hasComparison_of_inequality (h : classify cs = .inequality) : hasComparison cs = true := by
  rw [← hasComparison_trim]
  unfold classify ofTrimmed rules at h
  cases hcomparison : hasComparison (Text.trim cs) with
  | true => rfl
  | false =>
    -- no other rule gives the category
    simp only [List.find?_cons, hcomparison] at h
    repeat' split at h
    all_goals cases h

theorem isComparison_of_sameLetter {k c : Char} (hk : isComparison k = false)
    (h : sameLetter k c = true) : isComparison c = false := by
  rw [← Bool.not_eq_true]
  intro hc
  have hself : c.toLower = c ∧ (c == 'ı') = false ∧ (c == 'İ') = false := by
    simp only [isComparison, Bool.or_eq_true, beq_iff_eq] at hc
    rcases hc with ((rfl | rfl) | rfl) | rfl <;> decide
  unfold sameLetter at h
  rw [hself.1, hself.2.1, hself.2.2, Bool.or_self, Bool.and_false, Bool.or_false, beq_iff_eq] at h
  rw [h, hk] at hc
  cases hc

/-- A keyword without a comparison sign takes none off a text. -/
theorem exists_keyword {ks rest : List Char} (hks : hasComparison ks = false)
    (h : dropKeyword? ks cs = some rest) :
    ∃ word, cs = word ++ rest ∧ hasComparison word = false := by
  induction ks generalizing cs with
  | nil =>
    rw [Text.dropKeyword?_nil] at h
    exact ⟨[], Option.some.inj h, rfl⟩
  | cons k ks ih =>
    cases cs with
    | nil => cases h
    | cons c cs =>
      have hboth : (isComparison k || hasComparison ks) = false := hks
      rw [Bool.or_eq_false_iff] at hboth
      unfold dropKeyword? at h
      split at h
      · rename_i hsame
        obtain ⟨word, rfl, hword⟩ := ih hboth.2 h
        refine ⟨c :: word, rfl, ?_⟩
        have hcons : hasComparison (c :: word) = (isComparison c || hasComparison word) := rfl
        rw [hcons, isComparison_of_sameLetter hboth.1 hsame, hword, Bool.or_self]
      · cases h

end

end AlgebraDesk.Category

import AlgebraDesk.Analysis.Analyze
import AlgebraDesk.Proofs.Category
import AlgebraDesk.Proofs.Polynomial.Extraction

/-!
# Equations between two polynomials

A text that is extracted as a polynomial holds blanks, digits, points, signs, stars, `x` and `^`,
and at least one of them is not a blank.  So two such texts with an equality sign between them are
one equation with these two sides, if they stand in one line.

* `isPolynomialInk`, `ink_of_extract?`   the characters of a text that is extracted;
* `extract?_of_removeBlanks`             extracting does not look at blanks;
* `classify_sides`, `equationPolynomial?_sides`   the category and what the equation says;
* `analyze_sides`                        its account.
-/

namespace AlgebraDesk

namespace Polynomial

/-- What a text may hold besides blanks to be extracted. -/
def isPolynomialInk (c : Char) : Bool :=
  Decimal.isDecimalChar c || ['x', 'X', '^', '+', '-', '*'].contains c

section
variable {c : Char} {text text' : List Char} {p : Polynomial}

theorem Summand.ink (t : Summand) (hc : c ∈ t.chars) : isPolynomialInk c = true := by
  rcases List.mem_append.mp hc with h | h
  · rcases t.signed.mem c h with rfl | rfl <;> decide
  · rcases List.mem_append.mp h with h | h
    · unfold isPolynomialInk
      rw [t.numeral_plain c h, Bool.true_or]
    · have hmark := t.marked
      generalize t.mark = mark at hmark h
      generalize t.degree = degree at hmark
      have hsub : mark ⊆ ['x', '^', '1', '2'] := by cases hmark <;> simp
      have hall : ∀ d ∈ ['x', '^', '1', '2'], isPolynomialInk d = true :=
        List.all_eq_true.mp (by decide)
      exact hall c (hsub h)

/-- **No other character is in a text that is extracted.** -/
theorem ink_of_extract? (h : extract? text = some p) (hc : c ∈ text) :
    Text.isBlank c = true ∨ isPolynomialInk c = true := by
  obtain ⟨ts, _, htext, _⟩ := extract?_eq_some.mp h
  rw [normalize_eq] at htext
  by_cases hkept : (!Text.isBlank c && c != '*') = true
  · refine .inr ?_
    have hmem : (if c == 'X' then 'x' else c) ∈ ts.flatMap Summand.chars := by
      rw [← htext]
      exact List.mem_map_of_mem (List.mem_filter.mpr ⟨hc, hkept⟩)
    obtain ⟨t, _, ht⟩ := List.mem_flatMap.mp hmem
    by_cases hX : c = 'X'
    · rw [hX]
      decide
    · rw [if_neg (by rwa [beq_iff_eq])] at ht
      exact t.ink ht
  · rw [Bool.and_eq_true, not_and_or, Bool.not_eq_true, Bool.not_eq_false', bne_iff_ne,
      ne_eq, not_not] at hkept
    rcases hkept with hblank | rfl
    · exact .inl hblank
    · exact .inr (by decide)

theorem extract?_of_removeBlanks (h : Text.removeBlanks text = Text.removeBlanks text') :
    extract? text = extract? text' := by
  unfold extract? extract normalize
  rw [h]

theorem removeBlanks_ne_nil (h : extract? text = some p) : Text.removeBlanks text ≠ [] := by
  intro hnil
  unfold extract? extract normalize at h
  rw [hnil] at h
  have hnone : splitTerms (([].filter (· != '*')).map fun c => if c == 'X' then 'x' else c)
      = none := splitTerms.eq_1
  simp only [hnone] at h
  cases h

end

end Polynomial

namespace Analysis

open AlgebraDesk.Polynomial (extract? isPolynomialInk ink_of_extract?)
open Category (isSilent isComparison)

section
variable {c : Char} {places : Int} {left right : List Char} {p q : Polynomial}

/-! ## the category -/

theorem isSilent_of_ink (h : isPolynomialInk c = true) : isSilent c = true := by
  rcases Bool.or_eq_true _ _ ▸ h with h | h
  · have hne : ∀ k, Decimal.isDecimalChar k = false → (c == k) = false :=
      fun k hk => beq_eq_false_iff_ne.mpr (ne_of_class h hk)
    have hletter : ∀ k, Decimal.isDecimalChar k = false → Text.sameLetter k c = false := by
      intro k hk
      unfold Text.sameLetter
      rw [Decimal.toLower_of_isDecimalChar h, hne k hk, hne 'ı' (by decide), hne 'İ' (by decide)]
      exact Bool.and_false _
    unfold isSilent bne
    rw [Decimal.isBlank_of_isDecimalChar h, hletter 'd' (by decide), hletter 'i' (by decide),
      hne '∫' (by decide), hne 'f' (by decide), hne 'y' (by decide)]
    rfl
  · have hall : ∀ d ∈ ['x', 'X', '^', '+', '-', '*'], isSilent d = true :=
      List.all_eq_true.mp (by decide)
    exact hall c (List.contains_iff_mem.mp h)

/-- Neither a sign of a relation nor anything else that is not in a polynomial. -/
theorem not_mem_of_extract? (h : extract? left = some p) {d : Char}
    (hblank : Text.isBlank d = false) (hink : isPolynomialInk d = false) : d ∉ left := by
  intro hmem
  rcases ink_of_extract? h hmem with hd | hd
  · exact Bool.false_ne_true (hblank.symm.trans hd)
  · exact Bool.false_ne_true (hink.symm.trans hd)

theorem mem_of_mem_trimStart (h : c ∈ Text.trimStart left) : c ∈ left :=
  (List.dropWhile_sublist _).subset h

theorem mem_of_mem_trimEnd (h : c ∈ Text.trimEnd left) : c ∈ left :=
  (List.rdropWhile_prefix _ left).subset h

/-- The first character of the trimmed text. -/
theorem exists_silent (h : extract? left = some p) :
    ∃ c rest, Text.trimStart left = c :: rest ∧ isSilent c = true := by
  have hne : Text.trimStart left ≠ [] := by
    intro hnil
    have hblanks := Text.removeBlanks_trimStart left
    rw [hnil] at hblanks
    exact Polynomial.removeBlanks_ne_nil h hblanks.symm
  obtain ⟨c, rest, hcons⟩ := List.exists_cons_of_ne_nil hne
  have hblank : Text.isBlank c = false := by
    have hhead := head_dropWhile Text.isBlank left
    exact hhead c (by rw [show left.dropWhile Text.isBlank = c :: rest from hcons]; rfl)
  have hmem : c ∈ left := mem_of_mem_trimStart (hcons ▸ List.mem_cons_self)
  refine ⟨c, rest, hcons, isSilent_of_ink ?_⟩
  rcases ink_of_extract? h hmem with hc | hc
  · exact absurd (hblank.symm.trans hc) Bool.false_ne_true
  · exact hc

theorem classify_sides (hleft : '\n' ∉ left) (hright : '\n' ∉ right)
    (hp : extract? left = some p) (hq : extract? right = some q) :
    Category.ofTrimmed (Text.trimStart left ++ '=' :: Text.trimEnd right) = .equation := by
  have hmem : ∀ {d}, d ∈ Text.trimStart left ++ '=' :: Text.trimEnd right →
      d ∈ left ∨ d = '=' ∨ d ∈ right := by
    intro d hd
    rcases List.mem_append.mp hd with hd | hd
    · exact .inl (mem_of_mem_trimStart hd)
    · exact .inr ((List.mem_cons.mp hd).imp id mem_of_mem_trimEnd)
  have hline : (Text.trimStart left ++ '=' :: Text.trimEnd right).contains '\n' = false := by
    rw [List.contains_eq_mem, decide_eq_false_iff_not]
    intro h
    rcases hmem h with h | h | h
    · exact hleft h
    · exact absurd h (by decide)
    · exact hright h
  have hcomparison : Category.hasComparison (Text.trimStart left ++ '=' :: Text.trimEnd right)
      = false := by
    unfold Category.hasComparison
    rw [List.any_eq_false]
    intro d hd hcompared
    have hclass : Text.isBlank d = false ∧ isPolynomialInk d = false ∧ d ≠ '=' := by
      simp only [isComparison, Bool.or_eq_true, beq_iff_eq] at hcompared
      rcases hcompared with ((rfl | rfl) | rfl) | rfl <;> exact ⟨by decide, by decide, by decide⟩
    rcases hmem hd with h | h | h
    · exact not_mem_of_extract? hp hclass.1 hclass.2.1 h
    · exact hclass.2.2 h
    · exact not_mem_of_extract? hq hclass.1 hclass.2.1 h
  obtain ⟨c, rest, hcons, hsilent⟩ := exists_silent hp
  rw [hcons] at hline hcomparison ⊢
  obtain ⟨hderivative, hintegral, hfunction⟩ :=
    Category.silent_rules hsilent (rest ++ '=' :: Text.trimEnd right)
  exact Category.ofTrimmed_equation rfl hline hderivative hintegral hcomparison hfunction
    (List.contains_iff_mem.mpr (List.mem_append_right _ List.mem_cons_self))

/-! ## the two sides -/

theorem equationSides?_of_extract? (hp : extract? left = some p) (hq : extract? right = some q) :
    equationSides? (left ++ '=' :: right) = some (left, right) := by
  have huncut : ∀ {cs : List Char} {r : Polynomial}, extract? cs = some r →
      ∀ d ∈ cs, (d == '=') = false := by
    rintro cs r h d hd
    rw [beq_eq_false_iff_ne]
    rintro rfl
    exact not_mem_of_extract? h (by decide) (by decide) hd
  unfold equationSides?
  rw [Text.pieces_append (huncut hp) rfl, Text.pieces_uncut (huncut hq)]

theorem equationPolynomial?_of_extract? (hp : extract? left = some p)
    (hq : extract? right = some q) :
    equationPolynomial? (left ++ '=' :: right) = some (p.sub q) := by
  unfold equationPolynomial?
  rw [equationSides?_of_extract? hp hq]
  show (extract? left >>= fun p => extract? right >>= fun q => some (p.sub q)) = _
  rw [hp, hq]
  rfl

/-- **Two polynomials with an equality sign between them are analyzed as their difference.** -/
theorem analyze_sides (hleft : '\n' ∉ left) (hright : '\n' ∉ right)
    (hp : extract? left = some p) (hq : extract? right = some q) :
    analyze places (left ++ '=' :: right) = .curve (.ofPolynomial places .equation (p.sub q)) := by
  have htrim : Text.trim (left ++ '=' :: right)
      = Text.trimStart left ++ '=' :: Text.trimEnd right := Text.trim_append (by decide) _ _
  have hp' : extract? (Text.trimStart left) = some p := by
    rw [Polynomial.extract?_of_removeBlanks (Text.removeBlanks_trimStart left), hp]
  have hq' : extract? (Text.trimEnd right) = some q := by
    rw [Polynomial.extract?_of_removeBlanks (Text.removeBlanks_trimEnd right), hq]
  have hcategory : Category.classify (Text.trim (left ++ '=' :: right)) = .equation := by
    unfold Category.classify
    rw [Text.trim_trim, htrim, classify_sides hleft hright hp hq]
  have hne : (Text.trim (left ++ '=' :: right)).isEmpty = false := by
    rw [htrim, List.isEmpty_eq_false_iff]
    exact List.append_ne_nil_of_right_ne_nil _ (List.cons_ne_nil _ _)
  unfold analyze
  simp only [hne, hcategory]
  show ofEquation places (Text.trim (left ++ '=' :: right)) = _
  unfold ofEquation
  rw [htrim, equationSides?_of_extract? hp' hq', equationPolynomial?_of_extract? hp' hq']

end

end Analysis

end AlgebraDesk

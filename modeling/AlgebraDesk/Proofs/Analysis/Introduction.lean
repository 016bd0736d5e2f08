import AlgebraDesk.Proofs.Analysis.Printed
import AlgebraDesk.Proofs.Analysis.Sides
import AlgebraDesk.Proofs.Plot.Relation
import AlgebraDesk.Proofs.Text.Keyword

/-!
# How a function is introduced

A right-hand side may stand behind `y =` or `f(x) =`, with any blanks around the name and the sign,
or on its own when it has a variable and begins with no keyword.  Each way the text comes to the
category of functions by another rule, and each way the same right-hand side is read.

* `Introduction`            the text in front of a right-hand side;
* `Introduction.trimmed`    what trimming leaves of it;
* `functionBody_trimmed`, `functionBody_bare`   the right-hand side that is read;
* `ofTrimmed_introduced`, `ofTrimmed_rightHandSide`   the rules that apply;
* `analyze_introduced`, `analyze_bare`, `ofFunction_rightHandSide`   the analysis of the right-hand
  side;
* `introduction_irrelevant` all of them are the same.
-/

namespace AlgebraDesk.Analysis

open Category (dropFunction? dropDerivative? startsWithIntegral hasComparison isComparison)
open AlgebraDesk.Polynomial (extract?)
open Text (IsGap BeginsWith trimStart trimEnd)

/-! ## introductions -/

/-- `y =` or `f(x) =` in one line, with blanks wherever they may stand. -/
structure Introduction where
  front : List Char
  name : List Char
  middle : List Char
  back : List Char
  named : name = ['y'] ∨ name = "f(x)".toList
  front_gap : IsGap front
  middle_gap : IsGap middle
  back_gap : IsGap back

namespace Introduction

/-- `y=` -/
def plain : Introduction :=
  ⟨[], ['y'], [], [], .inl rfl, Text.isGap_nil, Text.isGap_nil, Text.isGap_nil⟩

/-- `f(x) = ` -/
def spaced : Introduction :=
  ⟨[], "f(x)".toList, [' '], [' '], .inr rfl, Text.isGap_nil, Text.isGap_space, Text.isGap_space⟩

def chars (i : Introduction) : List Char := i.front ++ (i.name ++ (i.middle ++ '=' :: i.back))

variable (i : Introduction) {c : Char} {s : List Char}

theorem of_mem (h : c ∈ i.chars) :
    (Text.isBlank c = true ∧ c ≠ '\n') ∨ c ∈ Plot.introductory ∨ c = '=' := by
  have hgap : ∀ {cs}, IsGap cs → c ∈ cs → Text.isBlank c = true ∧ c ≠ '\n' :=
    fun hcs hc => ⟨hcs.blank c hc, fun hline => hcs.inline (hline ▸ hc)⟩
  have hname : i.name ⊆ Plot.introductory := by
    rcases i.named with h | h
    all_goals
      rw [h]
      decide
  unfold chars at h
  simp only [List.mem_append, List.mem_cons] at h
  rcases h with h | h | h | h | h
  · exact .inl (hgap i.front_gap h)
  · exact .inr (.inl (hname h))
  · exact .inl (hgap i.middle_gap h)
  · exact .inr (.inr h)
  · exact .inl (hgap i.back_gap h)

theorem inline : '\n' ∉ i.chars := by
  intro h
  rcases i.of_mem h with ⟨-, hne⟩ | h | h
  · exact hne rfl
  · exact absurd h (by decide)
  · exact absurd h (by decide)

theorem uncompared : ∀ c ∈ i.chars, isComparison c = false := by
  intro c hc
  rcases i.of_mem hc with ⟨hblank, -⟩ | hletter | rfl
  · exact Category.isComparison_of_isBlank hblank
  · exact Plot.isComparison_introductory c hletter
  · rfl

/-- The name stands at the beginning of the trimmed text. -/
theorem head_name (rest : List Char) : ∀ c ∈ (i.name ++ rest).head?, Text.isBlank c = false := by
  rcases i.named with hname | hname
  all_goals
    rw [hname]
    rintro c ⟨⟩
    decide

theorem trimmed (s : List Char) :
    Text.trim (i.chars ++ s) = i.name ++ (i.middle ++ '=' :: trimEnd (i.back ++ s)) := by
  have hchars : i.chars ++ s = (i.front ++ (i.name ++ i.middle)) ++ '=' :: (i.back ++ s) := by
    simp [chars]
  have hstart : trimStart (i.front ++ (i.name ++ i.middle)) = i.name ++ i.middle :=
    dropWhile_append_stop i.front_gap.blank (i.head_name _)
  rw [hchars, Text.trim_append (by decide), hstart, List.append_assoc]

end Introduction

section
variable (i : Introduction) {places : Int} {s cs : List Char}

/-! ## the right-hand side -/

theorem dropFunction?_introduced (rest : List Char) :
    dropFunction? (i.name ++ (i.middle ++ '=' :: rest)) = some rest := by
  have hname : (Text.dropExactly? "f(x)".toList (i.name ++ (i.middle ++ '=' :: rest))).or
      (Text.dropExactly? ['y'] (i.name ++ (i.middle ++ '=' :: rest)))
        = some (i.middle ++ '=' :: rest) := by
    rcases i.named with h | h
    · rw [h]
      rfl
    · rw [h, Text.dropExactly?_append]
      rfl
  have hsign : trimStart (i.middle ++ '=' :: rest) = '=' :: rest := by
    refine dropWhile_append_stop i.middle_gap.blank ?_
    rintro c ⟨⟩
    decide
  unfold dropFunction?
  rw [Text.trimStart_of_head (i.head_name _)]
  simp only [hname, Option.bind_eq_bind, Option.bind_some, hsign]

/-- Blanks behind the sign belong to neither side. -/
theorem functionBody_trimmed (s : List Char) :
    functionBody (Text.trim (i.chars ++ s)) = Text.trim s := by
  unfold functionBody
  rw [i.trimmed, dropFunction?_introduced, Option.getD_some, Text.trim_trimEnd,
    Text.trim_blank_append i.back_gap.blank]

theorem dropFunction?_eq_none (h : '=' ∉ cs) : dropFunction? cs = none := by
  rw [Option.eq_none_iff_forall_not_mem]
  intro body hbody
  obtain ⟨front, hcs, -⟩ := Plot.of_dropFunction? hbody
  refine h ?_
  rw [hcs]
  exact List.mem_append_left _ (List.mem_append_right _ List.mem_cons_self)

theorem functionBody_bare (h : '=' ∉ s) : functionBody (Text.trim s) = Text.trim s := by
  unfold functionBody
  rw [dropFunction?_eq_none fun hmem => h (Text.of_mem_trim hmem), Option.getD_none,
    Text.trim_trim]

theorem ofFunction_congr {text text' : List Char} (h : functionBody text = functionBody text') :
    ofFunction places text = ofFunction places text' := by
  unfold ofFunction
  rw [h]

/-! ## the rules -/

/-- One line without a sign of a relation; it need not be a polynomial, nor hold any ink. -/
structure IsRightHandSide (s : List Char) : Prop where
  inline : '\n' ∉ s
  equality : '=' ∉ s
  comparison : ∀ c ∈ ['<', '>', '≤', '≥'], c ∉ s

theorem IsRightHandSide.uncompared (hs : IsRightHandSide s) : ∀ c ∈ s, isComparison c = false := by
  intro c hc
  rw [← Bool.not_eq_true]
  intro h
  refine hs.comparison c ?_ hc
  simpa [isComparison, or_assoc] using h

theorem ofTrimmed_introduced (hs : IsRightHandSide s) :
    Category.ofTrimmed (Text.trim (i.chars ++ s)) = .function := by
  have hline : (Text.trim (i.chars ++ s)).contains '\n' = false := by
    rw [List.contains_eq_mem, decide_eq_false_iff_not]
    intro h
    rcases List.mem_append.mp (Text.of_mem_trim h) with h | h
    · exact i.inline h
    · exact hs.inline h
  have hcomparison : hasComparison (Text.trim (i.chars ++ s)) = false := by
    rw [Category.hasComparison_trim]
    refine Category.hasComparison_of_class fun c hc => ?_
    rcases List.mem_append.mp hc with hc | hc
    · exact i.uncompared c hc
    · exact hs.uncompared c hc
  rw [i.trimmed] at hline hcomparison ⊢
  -- neither name begins like a keyword
  have hkeywords : ∀ rest, (i.name ++ rest).isEmpty = false ∧
      dropDerivative? (i.name ++ rest) = none ∧ startsWithIntegral (i.name ++ rest) = false := by
    intro rest
    rcases i.named with h | h
    all_goals
      rw [h]
      exact ⟨rfl, rfl, rfl⟩
  obtain ⟨hempty, hderivative, hintegral⟩ := hkeywords (i.middle ++ '=' :: trimEnd (i.back ++ s))
  refine Category.ofTrimmed_function hempty hline hderivative hintegral hcomparison ?_
  rw [dropFunction?_introduced]
  rfl

/-- The words that open a derivative or an integral. -/
def keywords : List String := ["d/dx", "derivative", "∫", "integral"]

theorem silent_of_keywords (h : ∀ k ∈ keywords, ¬ BeginsWith k cs) :
    dropDerivative? cs = none ∧ startsWithIntegral cs = false := by
  have hnone : ∀ k ∈ keywords, Text.dropKeyword? k.toList cs = none :=
    fun k hk => Text.dropKeyword?_of_not_beginsWith (h k hk)
  constructor
  · unfold dropDerivative?
    rw [hnone "d/dx" (by simp [keywords]), hnone "derivative" (by simp [keywords])]
    rfl
  · have hsign : (cs.head? == some '∫') = false := by
      rw [beq_eq_false_iff_ne]
      intro hhead
      obtain ⟨rest, rfl⟩ := List.head?_eq_some_iff.mp hhead
      refine h "∫" (by simp [keywords]) ⟨['∫'], rest, ?_, rfl⟩
      exact .cons (by decide) .nil
    unfold startsWithIntegral
    rw [hsign, hnone "integral" (by simp [keywords])]
    rfl

theorem ofTrimmed_rightHandSide (hs : IsRightHandSide s) (hvariable : 'x' ∈ s ∨ 'X' ∈ s)
    (hkeywords : ∀ k ∈ keywords, ¬ BeginsWith k (Text.trim s)) :
    Category.ofTrimmed (Text.trim s) = .function := by
  obtain ⟨hderivative, hintegral⟩ := silent_of_keywords hkeywords
  have hvariable' : 'x' ∈ Text.trim s ∨ 'X' ∈ Text.trim s :=
    hvariable.imp (Text.mem_trim (by decide)).mpr (Text.mem_trim (by decide)).mpr
  have hempty : (Text.trim s).isEmpty = false := by
    rw [List.isEmpty_eq_false_iff]
    rcases hvariable' with h | h
    · exact List.ne_nil_of_mem h
    · exact List.ne_nil_of_mem h
  have hsign : '=' ∉ Text.trim s := fun h => hs.equality (Text.of_mem_trim h)
  refine Category.ofTrimmed_bare hempty ?_ hderivative hintegral ?_ (dropFunction?_eq_none hsign)
    ?_ ?_
  · rw [List.contains_eq_mem, decide_eq_false_iff_not]
    exact fun h => hs.inline (Text.of_mem_trim h)
  · rw [Category.hasComparison_trim]
    exact Category.hasComparison_of_class hs.uncompared
  · exact (List.contains_eq_mem _ _).trans (decide_eq_false hsign)
  · simpa using hvariable'

/-! ## the analysis -/

theorem analyze_introduced (hs : IsRightHandSide s) :
    analyze places (i.chars ++ s) = ofFunction places (Text.trim s) := by
  rw [analyze_of_ofTrimmed (by decide) (ofTrimmed_introduced i hs)]
  refine ofFunction_congr ?_
  rw [functionBody_trimmed, functionBody_bare hs.equality]

theorem analyze_bare (hs : IsRightHandSide s) (hvariable : 'x' ∈ s ∨ 'X' ∈ s)
    (hkeywords : ∀ k ∈ keywords, ¬ BeginsWith k (Text.trim s)) :
    analyze places s = ofFunction places (Text.trim s) :=
  analyze_of_ofTrimmed (by decide) (ofTrimmed_rightHandSide hs hvariable hkeywords)

/-- A right-hand side that is no polynomial is repeated to the user. -/
theorem ofFunction_rightHandSide (hs : IsRightHandSide s) :
    ofFunction places (Text.trim s) = match extract? s with
      | some p => .curve (.ofPolynomial places .function p)
      | none => .sketch .function unsupportedForm "Rewrite into ax^2+bx+c form."
          { expression := "y=" ++ String.ofList (Text.trim s) } := by
  have hextract : extract? (Text.trim s) = extract? s :=
    Polynomial.extract?_of_removeBlanks (Text.removeBlanks_trim s)
  unfold ofFunction
  rw [functionBody_bare hs.equality]
  cases h : extract? s with
  | none => simp only [hextract, h]
  | some p => simp only [hextract, h]

/-- **The way a function is introduced does not matter**: the right-hand side alone decides. -/
theorem introduction_irrelevant (places : Int) (s : List Char) (hs : IsRightHandSide s)
    (i j : Introduction) :
    (analyze places (i.chars ++ s) = match extract? s with
      | some p => .curve (.ofPolynomial places .function p)
      | none => .sketch .function unsupportedForm "Rewrite into ax^2+bx+c form."
          { expression := "y=" ++ String.ofList (Text.trim s) }) ∧
    analyze places (j.chars ++ s) = analyze places (i.chars ++ s) ∧
    (('x' ∈ s ∨ 'X' ∈ s) → (∀ k ∈ keywords, ¬ BeginsWith k (Text.trim s)) →
      analyze places s = analyze places (i.chars ++ s)) := by
  rw [analyze_introduced i hs, analyze_introduced j hs]
  exact ⟨ofFunction_rightHandSide hs, rfl, analyze_bare hs⟩

/-- What cannot be read is repeated, and is the same too. -/
theorem introduction_irrelevant_sine :
    IsRightHandSide "sin(x)".toList ∧
      analyze 2 "f(x) = sin(x)".toList = analyze 2 "y=sin(x)".toList ∧
      analyze 2 "sin(x)".toList = analyze 2 "y=sin(x)".toList := by
  have hs : IsRightHandSide "sin(x)".toList := ⟨by decide, by decide, by simp⟩
  obtain ⟨-, hsame, hbare⟩ :=
    introduction_irrelevant 2 "sin(x)".toList hs Introduction.plain Introduction.spaced
  exact ⟨hs, hsame, hbare (.inl (by decide)) (by decide)⟩

end

end AlgebraDesk.Analysis

import AlgebraDesk.Plot.Source
import AlgebraDesk.Proofs.Category
import AlgebraDesk.Proofs.Text.Parts
import AlgebraDesk.Report.Tools

/-!
# Relations are not drawn

A comparison sign keeps its place whatever is taken off the text: blanks and the beginning of a
function when an expression is read, the keyword of a derivative when it is analyzed, and the two
characters that stand for the end of a line.  The same holds for words that are forbidden.  So an
inequality is refused before anything is read, with the first forbidden word or because it is no
curve.

* `IsForbidden`             what all forbidden words have in common;
* `IsTransparent`           beginnings that hide neither a comparison sign nor such a word;
* `isTransparent_front`     the beginning of a function, `exists_source`;
* `ofTextBy_of_comparison`  a text with a comparison sign is refused by any reader;
* `drawnText`               what is handed over to be drawn;
* `inequality_never_drawn`  the result for an inequality.
-/

namespace AlgebraDesk

namespace Plot

open Category (hasComparison hasComparison_append hasComparison_of_class isComparison)
open Text (IsBlankText IsInner lower lowerAlone trim trimStart isBlank)

/-! ## forbidden words -/

/-- The letters in front of the equality sign of a function. -/
def introductory : List Char := ['f', '(', 'x', ')', 'y']

structure IsForbidden (part : List Char) : Prop where
  inner : IsInner part
  equality : '=' ∉ part
  ink : ¬ part ⊆ introductory

theorem isForbidden_of_mem {token : String} (h : token ∈ forbiddenTokens) :
    IsForbidden token.toList where
  inner := {
    nonempty := (by decide : ∀ t ∈ forbiddenTokens, t.toList ≠ []) token h
    inked := by
      have hink : ∀ t ∈ forbiddenTokens, t.toList.all (!isBlank ·) = true := by decide
      simpa using hink token h
    backslash := (by decide : ∀ t ∈ forbiddenTokens, '\\' ∉ t.toList) token h
    sigma := (by decide : ∀ t ∈ forbiddenTokens, 'σ' ∉ t.toList ∧ 'ς' ∉ t.toList) token h
    head := (by decide : ∀ t ∈ forbiddenTokens, t.toList.head? ≠ some 'n') token h }
  equality := (by decide : ∀ t ∈ forbiddenTokens, '=' ∉ t.toList) token h
  ink := (by decide : ∀ t ∈ forbiddenTokens, ¬ t.toList ⊆ introductory) token h

section
variable {part front back cs ds text body : List Char} {token : String}

/-- The first of the forbidden words, if the same ones occur. -/
theorem forbidden?_congr
    (h : ∀ part, IsForbidden part → (part <:+: lower cs ↔ part <:+: lower ds)) :
    forbidden? cs = forbidden? ds := by
  unfold forbidden?
  refine List.find?_congr fun token htoken => Bool.eq_iff_iff.mpr ?_
  rw [Text.holds_iff, Text.holds_iff]
  exact h _ (isForbidden_of_mem htoken)

theorem of_forbidden? (h : forbidden? cs = some token) :
    token ∈ forbiddenTokens ∧ token.toList <:+: lower cs := by
  unfold forbidden? at h
  have hholds := List.find?_some h
  exact ⟨List.mem_of_find?_eq_some h, Text.holds_iff.mp hholds⟩

theorem forbidden?_eq_none :
    forbidden? cs = none ↔ ∀ token ∈ forbiddenTokens, ¬ token.toList <:+: lower cs := by
  unfold forbidden?
  simp only [List.find?_eq_none, Text.holds_iff]

/-! ## what stands in front -/

/-- A beginning that holds no comparison sign, and no part of a forbidden word with what follows. -/
structure IsTransparent (front : List Char) : Prop where
  comparison : hasComparison front = false
  infix_iff : ∀ part, IsForbidden part → ∀ cs, part <:+: lower (front ++ cs) ↔ part <:+: lower cs

theorem IsTransparent.append (h : IsTransparent front) (h' : IsTransparent back) :
    IsTransparent (front ++ back) where
  comparison := by rw [hasComparison_append, h.comparison, h'.comparison, Bool.or_false]
  infix_iff part hpart cs := by
    rw [List.append_assoc, h.infix_iff part hpart, h'.infix_iff part hpart]

theorem IsTransparent.of_blank (h : IsBlankText front) : IsTransparent front where
  comparison := Category.hasComparison_blank h
  infix_iff _ hpart cs := hpart.inner.infix_lower_blank_append h cs

theorem lowerAlone_introductory : ∀ c ∈ introductory, lowerAlone c = [c] := by
  simpa using (by decide : introductory.all (fun c => lowerAlone c = [c]) = true)

theorem isComparison_introductory : ∀ c ∈ introductory, isComparison c = false := by
  simpa using (by decide : introductory.all (!isComparison ·) = true)

/-- **The beginning of a function**, up to the equality sign. -/
theorem isTransparent_front (front : List Char)
    (h : ∀ c ∈ front, isBlank c = true ∨ c ∈ introductory) :
    IsTransparent (front ++ ['=']) where
  comparison := by
    refine (hasComparison_append _ _).trans ?_
    rw [hasComparison_of_class, Bool.false_or]
    · rfl
    · intro c hc
      rcases h c hc with hblank | hletter
      · exact Category.isComparison_of_isBlank hblank
      · exact isComparison_introductory c hletter
  infix_iff part hpart cs := by
    have hequality : lowerAlone '=' = ['='] := by decide
    have hcaseless : ∀ c ∈ front, lowerAlone c = [c] := fun _ hc =>
      (h _ hc).elim Text.lowerAlone_of_isBlank (lowerAlone_introductory _)
    rw [← List.append_cons, hpart.inner.infix_lower_append_cons _ hpart.equality hequality,
      or_iff_right]
    rw [Text.infix_lower_caseless hpart.inner.sigma hcaseless]
    refine fun hoccurs => hpart.ink fun c hc => (h c (hoccurs.subset hc)).resolve_left ?_
    rw [hpart.inner.inked c hc]
    exact Bool.false_ne_true

/-! ## the source -/

theorem of_dropFunction? (h : Category.dropFunction? cs = some body) :
    ∃ front, cs = (front ++ ['=']) ++ body ∧
      ∀ c ∈ front, isBlank c = true ∨ c ∈ introductory := by
  unfold Category.dropFunction? at h
  obtain ⟨rest, hrest, h⟩ := Option.bind_eq_some_iff.mp h
  obtain ⟨word, hword, hletters⟩ : ∃ word, trimStart cs = word ++ rest ∧ word ⊆ introductory := by
    rcases Option.or_eq_some_iff.mp hrest with hf | ⟨-, hy⟩
    · exact ⟨_, Text.of_dropExactly? hf, by decide⟩
    · exact ⟨_, Text.of_dropExactly? hy, by decide⟩
  obtain ⟨before, hbefore, hblank_before⟩ := Text.exists_trimStart cs
  obtain ⟨after, hafter, hblank_after⟩ := Text.exists_trimStart rest
  split at h
  · rename_i body' hcons
    rw [Option.some.injEq] at h
    subst h
    refine ⟨before ++ word ++ after, ?_, fun c hc => ?_⟩
    · rw [List.append_assoc, List.singleton_append, List.append_assoc, List.append_assoc,
        ← hcons, ← hafter, ← hword]
      exact hbefore
    · simp only [List.mem_append] at hc
      rcases hc with (hc | hc) | hc
      · exact .inl (hblank_before c hc)
      · exact .inr (hletters hc)
      · exact .inl (hblank_after c hc)
  · cases h

/-- **The source of a text** lies between a beginning that hides nothing and blanks. -/
theorem exists_source (text : List Char) :
    ∃ front back, text = front ++ (source text ++ back) ∧ IsTransparent front ∧
      IsBlankText back := by
  obtain ⟨front, back, htext, hfront, hback⟩ := Text.exists_trim text
  have hsource : source text = trim ((Category.dropFunction? (trim text)).getD (trim text)) := rfl
  rw [hsource]
  cases hdrop : Category.dropFunction? (trim text) with
  | none =>
    rw [Option.getD_none, Text.trim_trim]
    exact ⟨front, back, htext, .of_blank hfront, hback⟩
  | some body =>
    obtain ⟨introduction, hclean, hletters⟩ := of_dropFunction? hdrop
    obtain ⟨front', back', hbody, hfront', hback'⟩ := Text.exists_trim body
    refine ⟨front ++ ((introduction ++ ['=']) ++ front'), back' ++ back, ?_,
      (IsTransparent.of_blank hfront).append
        ((isTransparent_front _ hletters).append (.of_blank hfront')), ?_⟩
    · rw [Option.getD_some]
      conv => lhs; rw [htext, hclean, hbody]
      simp only [List.append_assoc]
    · exact List.forall_mem_append.mpr ⟨hback', hback⟩

theorem hasComparison_source (text : List Char) :
    hasComparison (source text) = hasComparison text := by
  obtain ⟨front, back, htext, hfront, hback⟩ := exists_source text
  conv => rhs; rw [htext]
  rw [hasComparison_append, hasComparison_append, hfront.comparison,
    Category.hasComparison_blank hback, Bool.or_false, Bool.false_or]

theorem forbidden?_source (text : List Char) : forbidden? (source text) = forbidden? text := by
  obtain ⟨front, back, htext, hfront, hback⟩ := exists_source text
  refine forbidden?_congr fun part hpart => ?_
  conv => rhs; rw [htext]
  rw [hfront.infix_iff part hpart, hpart.inner.infix_lower_append_blank hback]

/-! ## reading -/

/-- `Expression.ofText` with any way to read what is left of the text. -/
def Expression.ofTextBy (read? : List Char → Option Expression) (text : List Char) :
    Except Refusal Expression :=
  let body := source text
  if body.isEmpty then .error .nothing
  else match forbidden? body with
    | some token => .error (.forbidden token)
    | none =>
      if isRelation body then .error .notACurve
      else match read? body with
        | none => .error (.unreadable (String.ofList body))
        | some e => if e.symbols.isEmpty then .ok e else .error (.otherSymbols e.symbols)

theorem Expression.ofTextBy_read? (text : List Char) :
    Expression.ofTextBy Expression.read? text = Expression.ofText text := rfl

/-- Why a text with a comparison sign is refused. -/
def relationRefusal (text : List Char) : Refusal :=
  match forbidden? text with
  | some token => .forbidden token
  | none => .notACurve

/-- **A text with a comparison sign is refused before anything is read.** -/
theorem ofTextBy_of_comparison (h : hasComparison text = true)
    (read? : List Char → Option Expression) :
    Expression.ofTextBy read? text = .error (relationRefusal text) := by
  have hsource : hasComparison (source text) = true := (hasComparison_source text).trans h
  have hempty : ¬ (source text).isEmpty = true :=
    mt List.isEmpty_iff.mp (Category.ne_nil_of_comparison hsource)
  have hrelation : isRelation (source text) = true := by
    unfold isRelation
    rw [hsource, Bool.true_or]
  unfold Expression.ofTextBy relationRefusal
  rw [← forbidden?_source text]
  simp only [if_neg hempty, if_pos hrelation]
  cases forbidden? (source text) <;> rfl

/-! ## the answer -/

/-- The two ways to refuse `cs`: with a forbidden word that occurs in it, in any letter case, or, if
there is none, because it is no curve. -/
inductive RefusedFor (cs : List Char) : Answer → Prop
  | forbidden (token : String) (hmem : token ∈ forbiddenTokens)
      (hoccurs : token.toList <:+: lower cs) :
      RefusedFor cs (.failed ("Input contains forbidden token: " ++ token) "FORBIDDEN_TOKEN")
  | notACurve (habsent : ∀ token ∈ forbiddenTokens, ¬ token.toList <:+: lower cs) :
      RefusedFor cs (.failed "Only y=f(x) expressions can be plotted as curves." "NOT_A_CURVE")

theorem RefusedFor.congr {a : Answer} (h : RefusedFor cs a)
    (hsame : ∀ part, IsForbidden part → (part <:+: lower cs ↔ part <:+: lower ds)) :
    RefusedFor ds a := by
  cases h with
  | forbidden token hmem hoccurs =>
    exact .forbidden token hmem ((hsame _ (isForbidden_of_mem hmem)).mp hoccurs)
  | notACurve habsent =>
    exact .notACurve fun token hmem hoccurs =>
      habsent token hmem ((hsame _ (isForbidden_of_mem hmem)).mpr hoccurs)

theorem refusedFor_relationRefusal (cs : List Char) :
    RefusedFor cs (refusal (relationRefusal cs)) := by
  unfold relationRefusal
  cases h : forbidden? cs with
  | some token =>
    obtain ⟨hmem, hoccurs⟩ := of_forbidden? h
    exact .forbidden token hmem hoccurs
  | none => exact .notACurve (forbidden?_eq_none.mp h)

theorem plotExpression_of_comparison {s : String} (h : hasComparison s.toList = true)
    (marks : List Value) (r : Range) (style : Style) :
    ∃ a, plotExpression s marks r style = .ok a ∧ RefusedFor s.toList a := by
  refine ⟨_, ?_, refusedFor_relationRefusal s.toList⟩
  have hrefused := ofTextBy_of_comparison h Expression.read?
  rw [Expression.ofTextBy_read?] at hrefused
  unfold plotExpression
  rw [hrefused]

end

end Plot

namespace Analysis

open Category (classify hasComparison hasComparison_append hasComparison_of_class isComparison)
open Plot (RefusedFor IsForbidden)
open Text (lower sameLetter trim)

section
variable {cs ks text rest : List Char} {places : Int}

/-! ## the target of a derivative -/

theorem exists_derivative (h : Category.dropDerivative? cs = some rest) :
    ∃ word, cs = word ++ rest ∧ hasComparison word = false := by
  rcases Option.or_eq_some_iff.mp h with hsign | ⟨-, hword⟩
  · exact Category.exists_keyword (by decide) hsign
  · exact Category.exists_keyword (by decide) hword

theorem exists_of (h : dropOf? cs = some rest) :
    ∃ word, cs = word ++ rest ∧ hasComparison word = false := by
  obtain ⟨front, hcs, hfront⟩ := Text.exists_trimStart cs
  have hdrop : Text.dropKeyword? ['o', 'f'] (Text.trimStart cs) = some rest := by
    unfold dropOf? at h
    split at h
    · split at h
      · rename_i hof
        rw [hof, h]
      · rename_i hof
        split at h
        · cases h
        · rw [hof, h]
      · cases h
    · cases h
  obtain ⟨word, hword, hcomparison⟩ := Category.exists_keyword (by decide) hdrop
  refine ⟨front ++ word, by rw [List.append_assoc, ← hword]; exact hcs, ?_⟩
  rw [hasComparison_append, Category.hasComparison_blank hfront, hcomparison, Bool.or_self]

/-- **The target of a derivative** lies between parts without a comparison sign. -/
theorem exists_derivativeTarget (cs : List Char) : ∃ front back,
    cs = front ++ (derivativeTarget cs ++ back) ∧ hasComparison front = false ∧
      hasComparison back = false := by
  unfold derivativeTarget
  cases hdrop : Category.dropDerivative? cs with
  | none =>
    obtain ⟨front, back, hcs, hfront, hback⟩ := Text.exists_trim cs
    exact ⟨front, back, hcs, Category.hasComparison_blank hfront,
      Category.hasComparison_blank hback⟩
  | some rest =>
    obtain ⟨word, rfl, hword⟩ := exists_derivative hdrop
    obtain ⟨word', hrest, hword'⟩ : ∃ word', rest = word' ++ (dropOf? rest).getD rest ∧
        hasComparison word' = false := by
      cases hof : dropOf? rest with
      | none => exact ⟨[], rfl, rfl⟩
      | some rest' => exact exists_of hof
    obtain ⟨front, back, htarget, hfront, hback⟩ := Text.exists_trim ((dropOf? rest).getD rest)
    refine ⟨word ++ (word' ++ front), back, ?_, ?_, Category.hasComparison_blank hback⟩
    · conv => lhs; rw [hrest, htarget]
      simp only [List.append_assoc]
    · rw [hasComparison_append, hasComparison_append, hword, hword',
        Category.hasComparison_blank hfront, Bool.or_self, Bool.or_self]

theorem hasComparison_derivativeTarget (cs : List Char) :
    hasComparison (derivativeTarget cs) = hasComparison cs := by
  obtain ⟨front, back, hcs, hfront, hback⟩ := exists_derivativeTarget cs
  conv => rhs; rw [hcs]
  rw [hasComparison_append, hasComparison_append, hfront, hback, Bool.or_false, Bool.false_or]

theorem infix_derivativeTarget {part : List Char} (hpart : IsForbidden part)
    (h : part <:+: lower (derivativeTarget cs)) : part <:+: lower cs := by
  obtain ⟨front, back, hcs, -, -⟩ := exists_derivativeTarget cs
  rw [Text.infix_lower_iff hpart.inner.sigma] at h ⊢
  have htarget : derivativeTarget cs <:+: cs := by
    conv => rhs; rw [hcs]
    exact List.infix_append' front _ back
  exact h.trans (htarget.flatMap Text.lowerAlone)

/-! ## what is drawn of a text -/

/-- The expression of an analysis, or the text itself when there is none. -/
def drawnText (places : Int) (cs : List Char) : List Char :=
  let expression := (analyze places cs).graph.expression
  if expression.isEmpty then cs else expression.toList

/-- What is looked at for forbidden words: a derivative without its keyword, or the text. -/
def subject (cs : List Char) : List Char :=
  if classify cs = .derivative then derivativeTarget (trim cs) else cs

theorem subject_of_ne (h : classify cs ≠ .derivative) : subject cs = cs := if_neg h

theorem infix_subject {part : List Char} (hpart : IsForbidden part)
    (h : part <:+: lower (subject cs)) : part <:+: lower cs := by
  unfold subject at h
  split at h
  · exact hpart.inner.infix_lower_trim.mp (infix_derivativeTarget hpart h)
  · exact h

theorem analyze_of_comparison (h : hasComparison cs = true) :
    analyze places cs = ofCategory places (trim cs) (classify cs) := by
  have hclean : hasComparison (trim cs) = true := (Category.hasComparison_trim cs).trans h
  have hempty : ¬ (trim cs).isEmpty = true :=
    mt List.isEmpty_iff.mp (Category.ne_nil_of_comparison hclean)
  unfold analyze
  simp only [if_neg hempty, Category.classify_trim]

theorem expression_ofSystem (places : Int) (cs : List Char) :
    (ofSystem places cs).graph.expression = "" := by
  unfold ofSystem
  split
  · split <;> rfl
  · rfl

theorem expression_of_inequality (places : Int) (h : classify cs = .inequality) :
    (analyze places cs).graph.expression = String.ofList (trim cs) := by
  rw [analyze_of_comparison (Category.hasComparison_of_inequality h), h]
  rfl

theorem expression_of_derivative (h : hasComparison cs = true) (hclass : classify cs = .derivative) :
    (analyze places cs).graph.expression
      = "y=" ++ String.ofList (derivativeTarget (trim cs)) := by
  have htarget : hasComparison (derivativeTarget (trim cs)) = true := by
    rw [hasComparison_derivativeTarget, Category.hasComparison_trim, h]
  rw [analyze_of_comparison h, hclass]
  refine if_neg ?_
  rw [String.isEmpty_iff, String.ofList_eq_empty_iff]
  exact Category.ne_nil_of_comparison htarget

theorem drawnText_of_expression {s : String} (h : (analyze places cs).graph.expression = s)
    (hne : s.toList ≠ []) : drawnText places cs = s.toList := by
  unfold drawnText
  rw [h]
  refine if_neg ?_
  rw [String.isEmpty_iff]
  rintro rfl
  exact hne rfl

theorem drawnText_of_empty (h : (analyze places cs).graph.expression = "") :
    drawnText places cs = cs := by
  unfold drawnText
  rw [h]
  rfl

/-- **The comparison sign and the forbidden words are still there.** -/
theorem drawnText_of_comparison (places : Int) (h : hasComparison cs = true) :
    hasComparison (drawnText places cs) = true ∧ ∀ part, IsForbidden part →
      (part <:+: lower (drawnText places cs) ↔ part <:+: lower (subject cs)) := by
  have hclean : hasComparison (trim cs) = true := (Category.hasComparison_trim cs).trans h
  rcases Category.classify_of_comparison h with hclass | hclass | hclass | hclass
  · rw [subject_of_ne (by rw [hclass]; decide), drawnText_of_empty]
    · exact ⟨h, fun _ _ => Iff.rfl⟩
    · rw [analyze_of_comparison h, hclass]
      exact expression_ofSystem places (trim cs)
  · have htarget : hasComparison (derivativeTarget (trim cs)) = true :=
      (hasComparison_derivativeTarget _).trans hclean
    have hdrawn : drawnText places cs = ['y'] ++ ['='] ++ derivativeTarget (trim cs) := by
      rw [drawnText_of_expression (expression_of_derivative h hclass)]
      · rw [String.toList_append, String.toList_ofList, String.toList_ofList]
        rfl
      · rw [String.toList_append]
        exact List.cons_ne_nil _ _
    have hfront := Plot.isTransparent_front ['y'] (by simp [Plot.introductory])
    rw [hdrawn, subject, if_pos hclass]
    exact ⟨by rw [hasComparison_append, htarget, Bool.or_true],
      fun part hpart => hfront.infix_iff part hpart _⟩
  · rw [subject_of_ne (by rw [hclass]; decide), drawnText_of_empty]
    · exact ⟨h, fun _ _ => Iff.rfl⟩
    · rw [analyze_of_comparison h, hclass]
      rfl
  · have hdrawn : drawnText places cs = trim cs := by
      rw [drawnText_of_expression (expression_of_inequality places hclass)]
      · exact String.toList_ofList
      · rw [String.toList_ofList]
        exact Category.ne_nil_of_comparison hclean
    rw [hdrawn, subject_of_ne (by rw [hclass]; decide)]
    exact ⟨hclean, fun _ hpart => hpart.inner.infix_lower_trim⟩

end

end Analysis

namespace Report

open Analysis (drawnText subject)
open Category (hasComparison)
open Plot (RefusedFor IsForbidden)
open Text (lower breakLines)

section
variable {text : String} {places : Int}

theorem hasComparison_breakLines (cs : List Char) :
    hasComparison (breakLines cs) = hasComparison cs :=
  Text.any_breakLines (by decide) (by decide) (by decide) cs

theorem draw_eq (places : Int) (text : String) (style : Plot.Style) : ∃ marks,
    draw places text style = (do
      return .plot (← Plot.plotExpression (String.ofList (drawnText places (typed text))) marks {}
        style)) := by
  unfold draw drawnText Plot.plotAnalysis
  by_cases hempty : (Analysis.analyze places (typed text)).graph.expression.isEmpty = true
  · refine ⟨[], ?_⟩
    simp only [if_pos hempty]
  · refine ⟨(Analysis.analyze places (typed text)).graph.highlights.map Point.toValue, ?_⟩
    simp only [if_neg hempty, String.ofList_toList]

/-- Any text with a comparison sign, as it is typed. -/
theorem draw_of_comparison (places : Int) (style : Plot.Style) (h : hasComparison text.toList = true) :
    ∃ a, draw places text style = .ok (.plot a) ∧ RefusedFor (subject (typed text)) a := by
  have htyped : hasComparison (typed text) = true := (hasComparison_breakLines _).trans h
  obtain ⟨hcomparison, hsame⟩ := Analysis.drawnText_of_comparison places htyped
  obtain ⟨marks, hdraw⟩ := draw_eq places text style
  obtain ⟨a, hplot, hrefused⟩ := Plot.plotExpression_of_comparison
    (s := String.ofList (drawnText places (typed text)))
    (by rw [String.toList_ofList]; exact hcomparison) marks {} style
  refine ⟨a, ?_, ?_⟩
  · rw [hdraw, hplot]
    rfl
  · rw [String.toList_ofList] at hrefused
    exact hrefused.congr hsame

/-- The analysis of an inequality. -/
theorem plotAnalysis_of_inequality (places : Int) (style : Plot.Style) {cs : List Char}
    (h : Category.classify cs = .inequality) :
    ∃ a, Plot.plotAnalysis (Analysis.analyze places cs) style = .ok a ∧ RefusedFor cs a := by
  have hclean : hasComparison (Text.trim cs) = true :=
    (Category.hasComparison_trim _).trans (Category.hasComparison_of_inequality h)
  have hempty : ¬ (String.ofList (Text.trim cs)).isEmpty = true := by
    rw [String.isEmpty_iff, String.ofList_eq_empty_iff]
    exact Category.ne_nil_of_comparison hclean
  obtain ⟨a, hplot, hrefused⟩ := Plot.plotExpression_of_comparison
    (s := String.ofList (Text.trim cs)) (by rw [String.toList_ofList]; exact hclean)
    ((Analysis.analyze places cs).graph.highlights.map Point.toValue) {} style
  refine ⟨a, ?_, ?_⟩
  · unfold Plot.plotAnalysis
    rw [Analysis.expression_of_inequality places h, if_neg hempty]
    exact hplot
  · rw [String.toList_ofList] at hrefused
    exact hrefused.congr fun part hpart => hpart.inner.infix_lower_trim

/-- **No inequality is drawn.**  Its analysis and its text are refused, with a forbidden word that
occurs or because they are no curve, and whatever reads formulas is not asked.  A text may be typed
so that the broken line in front makes a derivative of it; then it is the target that is looked at,
in which no word is forbidden that is not in the text. -/
theorem inequality_never_drawn (places : Int) (style : Plot.Style)
    (h : Category.classify text.toList = .inequality) :
    (∃ a, Plot.plotAnalysis (Analysis.analyze places text.toList) style = .ok a ∧
      RefusedFor text.toList a) ∧
    (∃ a, draw places text style = .ok (.plot a) ∧ RefusedFor (subject (typed text)) a ∧
      (Category.classify (typed text) ≠ .derivative → RefusedFor text.toList a) ∧
      ∀ token ∈ Plot.forbiddenTokens, token.toList <:+: lower (subject (typed text)) →
        token.toList <:+: lower text.toList) ∧
    ∀ expression ∈ [(Analysis.analyze places text.toList).graph.expression.toList,
        drawnText places (typed text)],
      ∃ r, ∀ read? : List Char → Option Plot.Expression,
        Plot.Expression.ofTextBy read? expression = .error r := by
  have hcomparison := Category.hasComparison_of_inequality h
  have htyped : hasComparison (typed text) = true := (hasComparison_breakLines _).trans hcomparison
  have hbroken : ∀ part, IsForbidden part →
      (part <:+: lower (typed text) ↔ part <:+: lower text.toList) := fun part hpart =>
    hpart.inner.infix_lower_breakLines []
  refine ⟨plotAnalysis_of_inequality places style h, ?_, ?_⟩
  · obtain ⟨a, hdraw, hrefused⟩ := draw_of_comparison places style hcomparison
    refine ⟨a, hdraw, hrefused, fun hclass => ?_, fun token htoken hoccurs => ?_⟩
    · rw [Analysis.subject_of_ne hclass] at hrefused
      exact hrefused.congr hbroken
    · have hforbidden := Plot.isForbidden_of_mem htoken
      exact (hbroken _ hforbidden).mp (Analysis.infix_subject hforbidden hoccurs)
  · intro expression hmem
    have hsign : hasComparison expression = true := by
      rcases List.mem_pair.mp hmem with rfl | rfl
      · rw [Analysis.expression_of_inequality places h, String.toList_ofList,
          Category.hasComparison_trim, hcomparison]
      · exact (Analysis.drawnText_of_comparison places htyped).1
    exact ⟨_, Plot.ofTextBy_of_comparison hsign⟩

theorem inequality_never_drawn_less : Category.classify "x<3".toList = .inequality ∧
    draw 4 "x<3" .characters = .ok (.plot
      (.failed "Only y=f(x) expressions can be plotted as curves." "NOT_A_CURVE")) := by
  have h : Category.classify "x<3".toList = .inequality := by decide +kernel
  obtain ⟨-, ⟨a, hdraw, -, hrefused, -⟩, -⟩ := inequality_never_drawn 4 .characters h
  refine ⟨h, ?_⟩
  rw [hdraw]
  cases hrefused (by decide +kernel) with
  | forbidden token hmem hoccurs =>
    have habsent : ∀ t ∈ Plot.forbiddenTokens, ¬ t.toList <:+: lower "x<3".toList := by
      decide +kernel
    exact absurd hoccurs (habsent token hmem)
  | notACurve => rfl

end

end Report

end AlgebraDesk

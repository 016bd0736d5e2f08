import AlgebraDesk.Proofs.Analysis.Printed
import AlgebraDesk.Proofs.Text.Keyword

/-!
# What is to be derived

A request for a derivative is a keyword, perhaps the word `of`, and the text to derive.  That text is
repeated as it stands, whatever signs and keywords it holds: a leading keyword decides the category,
and no more is taken off than the words in front.

* `IsDerivativeWord`         `d/dx` or `derivative`, in any letter case;
* `BeginsWithOf`             texts that begin with the word `of`;
* `IsLink`                   what may stand between the keyword and the text;
* `dropDerivative?_append`, `dropOf?_link`   what the two words leave;
* `ofTrimmed_request`, `derivativeTarget_request`   the category, and what is to be derived;
* `analyze_request`          the analysis of a request.
-/

namespace AlgebraDesk.Analysis

open Category (dropDerivative?)
open Text (Spells IsGap isBlank isWordChar dropKeyword? trimStart)

/-! ## requests -/

def IsDerivativeWord (word : List Char) : Prop :=
  Spells "d/dx".toList word ∨ Spells "derivative".toList word

/-- The word `of` and not only its letters: the text ends behind them, or no word goes on there. -/
def BeginsWithOf (cs : List Char) : Prop :=
  ∃ word rest, Spells "of".toList word ∧ cs = word ++ rest ∧ ∀ c ∈ rest.head?, isWordChar c = false

/-- What stands between the keyword and the target, which must not begin with the word `of` when
that is left out. -/
inductive IsLink (target : List Char) : List Char → Prop
  | of {gap word gap' : List Char} (hgap : IsGap gap) (hne : gap ≠ [])
      (hword : Spells "of".toList word) (hgap' : IsGap gap') (hne' : gap' ≠ []) :
      IsLink target (gap ++ (word ++ gap'))
  | bare {gap : List Char} (hgap : IsGap gap) (hof : ¬ BeginsWithOf target) : IsLink target gap

section
variable {word gap gap' link target cs rest : List Char}

/-! ## the keyword -/

theorem IsDerivativeWord.inked (h : IsDerivativeWord word) : ∀ c ∈ word, isBlank c = false := by
  rcases h with h | h
  · exact h.inked (by decide)
  · exact h.inked (by decide)

theorem IsDerivativeWord.ne_nil (h : IsDerivativeWord word) : word ≠ [] := by
  rintro rfl
  rcases h with h | h <;> cases h

/-- The second letter tells the two keywords apart. -/
theorem dropDerivative?_append (h : IsDerivativeWord word) (rest : List Char) :
    dropDerivative? (word ++ rest) = some rest := by
  unfold dropDerivative?
  rcases h with h | h
  · rw [h.drop]
    rfl
  · have hother : dropKeyword? "d/dx".toList (word ++ rest) = none := by
      have hletters : Spells ('d' :: 'e' :: "rivative".toList) word := h
      cases hletters with
      | cons hd hletters =>
        cases hletters with
        | @cons _ c _ _ he hletters =>
          have hslash : Text.sameLetter '/' c = false := by
            rw [Text.sameLetter_eq (by decide), beq_iff_eq] at he
            rw [Text.sameLetter_eq (by decide), he]
            decide
          show (if Text.sameLetter 'd' _ then dropKeyword? ['/', 'd', 'x'] (c :: _) else none) = none
          rw [if_pos hd, dropKeyword?, hslash]
          rfl
    rw [hother, h.drop]
    rfl

/-! ## the word after it -/

/-- Where blanks end, the rest begins. -/
theorem trimStart_gap (hgap : IsGap gap) (h : ∀ c ∈ cs.head?, isBlank c = false) :
    trimStart (gap ++ cs) = cs := dropWhile_append_stop hgap.blank h

theorem isBlank_head (hgap : IsGap gap) (hne : gap ≠ []) (cs : List Char) :
    (((gap ++ cs).head?.map isBlank).getD false) = true := by
  cases gap with
  | nil => exact absurd rfl hne
  | cons c gap => exact hgap.blank c List.mem_cons_self

theorem dropOf?_of (hgap : IsGap gap) (hne : gap ≠ []) (hword : Spells "of".toList word)
    (hend : ∀ c ∈ rest.head?, isWordChar c = false) :
    dropOf? (gap ++ (word ++ rest)) = some rest := by
  have hdrop : dropKeyword? ['o', 'f'] (word ++ rest) = some rest := hword.drop rest
  have hhead : ∀ c ∈ (word ++ rest).head?, isBlank c = false :=
    Text.head_of_inked (Spells.ne_nil hword) (hword.inked (by decide)) rest
  unfold dropOf?
  rw [if_pos (isBlank_head hgap hne _), trimStart_gap hgap hhead, hdrop]
  cases rest with
  | nil => rfl
  | cons c rest =>
    dsimp only
    rw [hend c rfl]
    rfl

/-- Letters that a word goes on with are not taken off. -/
theorem dropOf?_bare (hgap : IsGap gap) (hhead : ∀ c ∈ target.head?, isBlank c = false)
    (hof : ¬ BeginsWithOf target) : dropOf? (gap ++ target) = none := by
  unfold dropOf?
  split
  · rw [trimStart_gap hgap hhead]
    have hword : ∀ rest, dropKeyword? ['o', 'f'] target = some rest →
        ¬ ∀ c ∈ rest.head?, isWordChar c = false := by
      intro rest hrest hend
      obtain ⟨word, hword, htarget⟩ := Text.dropKeyword?_eq_some.mp hrest
      exact hof ⟨word, rest, hword, htarget, hend⟩
    match hrest : dropKeyword? ['o', 'f'] target with
    | none => rfl
    | some [] => exact absurd nofun (hword [] hrest)
    | some (c :: rest) =>
      dsimp only
      rw [if_pos]
      rw [← Bool.not_eq_false]
      intro hc
      refine hword _ hrest fun d hd => ?_
      cases hd
      exact hc
  · rfl

/-- **Blanks at most are left in front of the target.** -/
theorem dropOf?_link (hlink : IsLink target link) (hhead : ∀ c ∈ target.head?, isBlank c = false) :
    ∃ gap, IsGap gap ∧ (dropOf? (link ++ target)).getD (link ++ target) = gap ++ target := by
  cases hlink with
  | @of gap word gap' hgap hne hword hgap' hne' =>
    have hend : ∀ c ∈ (gap' ++ target).head?, isWordChar c = false := by
      intro c hc
      cases gap' with
      | nil => exact absurd rfl hne'
      | cons d gap' =>
        cases hc
        exact Text.isWordChar_of_isBlank (hgap'.blank _ List.mem_cons_self)
    refine ⟨gap', hgap', ?_⟩
    rw [List.append_assoc, List.append_assoc, dropOf?_of hgap hne hword hend]
    rfl
  | bare hgap hof =>
    refine ⟨link, hgap, ?_⟩
    rw [dropOf?_bare hgap hhead hof]
    rfl

theorem IsLink.inline (hlink : IsLink target link) : '\n' ∉ link := by
  cases hlink with
  | of hgap _ hword hgap' _ =>
    have hletters := Text.not_mem_newline (hword.inked (by decide))
    simp only [List.mem_append, not_or]
    exact ⟨hgap.inline, hletters, hgap'.inline⟩
  | bare hgap _ => exact hgap.inline

/-! ## the analysis -/

/-- The analysis that repeats a target. -/
def derivativeOf (target : String) : Analysis :=
  .derivative "1) Detect derivative request. 2) Extract target function. 3) Apply derivative rules."
    "Derivative mode detected." { expression := "y=" ++ target } target ("d/dx(" ++ target ++ ")")

/-- One line with ink at both ends. -/
structure IsTarget (target : List Char) : Prop where
  ne_nil : target ≠ []
  inline : '\n' ∉ target
  trimmed : Text.trim target = target

variable (hword : IsDerivativeWord word) (hlink : IsLink target link) (htarget : IsTarget target)

include hword htarget in
theorem trim_request : Text.trim (word ++ (link ++ target)) = word ++ (link ++ target) := by
  have hhead : ∀ c ∈ (word ++ (link ++ target)).head?, isBlank c = false :=
    Text.head_of_inked hword.ne_nil hword.inked _
  rw [Text.trim, Text.trimStart_of_head hhead, ← List.append_assoc]
  exact Text.trimEnd_append htarget.ne_nil (Text.trimEnd_of_trim htarget.trimmed) _

include hword hlink htarget

theorem ofTrimmed_request : Category.ofTrimmed (Text.trim (word ++ (link ++ target)))
    = .derivative := by
  rw [trim_request hword htarget]
  have hline : '\n' ∉ word ++ (link ++ target) := by
    simp only [List.mem_append, not_or]
    exact ⟨Text.not_mem_newline hword.inked, hlink.inline, htarget.inline⟩
  refine Category.ofTrimmed_derivative ?_ ?_ ?_
  · exact List.isEmpty_eq_false_iff.mpr (List.append_ne_nil_of_left_ne_nil hword.ne_nil _)
  · exact (List.contains_eq_mem _ _).trans (decide_eq_false hline)
  · rw [dropDerivative?_append hword]
    rfl

theorem derivativeTarget_request : derivativeTarget (word ++ (link ++ target)) = target := by
  obtain ⟨gap, hgap, hrest⟩ := dropOf?_link hlink (Text.head_of_trim htarget.trimmed)
  unfold derivativeTarget
  rw [dropDerivative?_append hword]
  dsimp only
  rw [hrest, Text.trim_blank_append hgap.blank, htarget.trimmed]

/-- **The target of a derivative is repeated exactly**, with or without the word `of` in front. -/
theorem analyze_request (places : Int) :
    analyze places (word ++ (link ++ target)) = derivativeOf (String.ofList target) := by
  have hne : (String.ofList target).isEmpty = false := by
    rw [String.isEmpty_eq_false_iff]
    intro h
    exact htarget.ne_nil (by simpa using h)
  rw [analyze_of_ofTrimmed (by decide) (ofTrimmed_request hword hlink htarget),
    trim_request hword htarget]
  show ofDerivative _ = _
  unfold ofDerivative
  simp only [derivativeTarget_request hword hlink htarget, hne]
  rfl

end

/-- A target that begins with the letters of the word, and holds an equality sign. -/
theorem analyze_request_offset :
    analyze 2 "Derivative  OF\toffset = x".toList = derivativeOf "offset = x" ∧
      analyze 2 "d/DX offset = x".toList = derivativeOf "offset = x" := by
  have htarget : IsTarget "offset = x".toList := ⟨by decide, by decide, by decide⟩
  have hlonger : ¬ BeginsWithOf "offset = x".toList := by
    rintro ⟨word, rest, hword, htext, hend⟩
    have hdrop := hword.drop rest
    rw [← htext] at hdrop
    cases hdrop
    exact absurd (hend 'f' rfl) (by decide)
  have hgap : IsGap [' ', ' '] := ⟨by decide, by decide⟩
  have hgap' : IsGap ['\t'] := ⟨by decide, by decide⟩
  have hof : IsLink "offset = x".toList "  OF\t".toList :=
    .of hgap (List.cons_ne_nil _ _) (show Spells "of".toList ['O', 'F'] by decide) hgap'
      (List.cons_ne_nil _ _)
  have hword : IsDerivativeWord "Derivative".toList := .inr (by decide)
  have hword' : IsDerivativeWord "d/DX".toList := .inl (by decide)
  exact ⟨analyze_request hword hof htarget 2,
    analyze_request hword' (.bare Text.isGap_space hlonger) htarget 2⟩

end AlgebraDesk.Analysis

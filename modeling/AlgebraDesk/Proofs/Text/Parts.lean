import AlgebraDesk.Proofs.Text

/-!
# Parts of a text

Whether a text holds a part does not change when something is cut off in front of a character that
the part does not have.  Letter case is no obstacle: but for the two forms of a small sigma, each
character has its lower case whatever stands around it.

* `holds_iff`              a part stands somewhere in the text;
* `infix_append_cons_iff`  a character that divides the text into two;
* `infix_lower_iff`        the lower case, one character after the other;
* `IsInner`                parts that no blank and no end of a line touches;
* `infix_lower_trim`, `infix_lower_breakLines`   they stay when a text is trimmed and its lines are
  broken.
-/

namespace AlgebraDesk.Text

section
variable {c : Char} {part cs xs ys : List Char}

theorem isSome_dropExactly? : (dropExactly? part cs).isSome = true ↔ part <+: cs := by
  constructor
  · intro h
    obtain ⟨rest, hrest⟩ := Option.isSome_iff_exists.mp h
    exact ⟨rest, (of_dropExactly? hrest).symm⟩
  · rintro ⟨rest, rfl⟩
    rw [dropExactly?_append]
    rfl

theorem holds_iff : holds part cs = true ↔ part <:+: cs := by
  induction cs with
  | nil => rw [holds, List.isEmpty_iff, List.infix_nil]
  | cons c cs ih => rw [holds, Bool.or_eq_true, isSome_dropExactly?, ih, List.infix_cons_iff]

/-! ## dividing a text -/

theorem prefix_of_append_cons (xs : List Char) (hc : c ∉ part) (h : part <+: xs ++ c :: ys) :
    part <+: xs := by
  rcases List.prefix_or_prefix_of_prefix h (List.prefix_append xs (c :: ys)) with hpart | ⟨t, rfl⟩
  · exact hpart
  · cases t with
    | nil => exact ⟨[], by rw [List.append_nil, List.append_nil]⟩
    | cons d t =>
      have hd := (List.cons_prefix_cons.mp ((List.prefix_append_right_inj xs).mp h)).1
      exact absurd (hd ▸ List.mem_append_right xs List.mem_cons_self) hc

/-- **A character that a part does not have** divides the text into two. -/
theorem infix_append_cons_iff (hc : c ∉ part) :
    part <:+: xs ++ c :: ys ↔ part <:+: xs ∨ part <:+: ys := by
  constructor
  · intro h
    induction xs with
    | nil =>
      rcases List.infix_cons_iff.mp h with h | h
      · exact .inl (prefix_of_append_cons [] hc h).isInfix
      · exact .inr h
    | cons x xs ih =>
      rcases List.infix_cons_iff.mp h with h | h
      · exact .inl (prefix_of_append_cons (x :: xs) hc h).isInfix
      · exact (ih h).imp_left (List.infix_cons ·)
  · rintro (h | h)
    · exact h.trans (List.prefix_append _ _).isInfix
    · exact (List.infix_cons h).trans (List.suffix_append _ _).isInfix

/-! ## letter case -/

/-- The lower case of a character that stands alone. -/
def lowerAlone (c : Char) : List Char := lowerChar [] c []

/-- The two forms of a small sigma are one letter. -/
def unifySigma (c : Char) : Char := if c = 'ς' then 'σ' else c

theorem unifySigma_lowerChar (before after : List Char) :
    (lowerChar before c after).map unifySigma = (lowerAlone c).map unifySigma := by
  unfold lowerAlone lowerChar
  split
  · rfl
  · split
    · split <;> split <;> rfl
    · rfl

theorem unifySigma_lowerFrom (before : List Char) :
    (lowerFrom before cs).map unifySigma = (cs.flatMap lowerAlone).map unifySigma := by
  induction cs generalizing before with
  | nil => rfl
  | cons c cs ih =>
    rw [lowerFrom, List.flatMap_cons, List.map_append, List.map_append, unifySigma_lowerChar, ih]

/-- A part without the letter occurs in a text just when it occurs with both forms read as one. -/
theorem infix_map_unifySigma (hpart : 'σ' ∉ part ∧ 'ς' ∉ part) :
    part <:+: cs.map unifySigma ↔ part <:+: cs := by
  constructor
  · intro h
    obtain ⟨m, hm, rfl⟩ := List.infix_map_iff.mp h
    have hsame : m.map unifySigma = m := by
      refine (List.map_congr_left fun c hc => ?_).trans (List.map_id m)
      by_cases hsigma : c = 'ς'
      · have hmem : unifySigma c ∈ m.map unifySigma := List.mem_map_of_mem hc
        rw [hsigma] at hmem
        exact absurd hmem hpart.1
      · exact if_neg hsigma
    rwa [hsame]
  · intro h
    have hsame : part.map unifySigma = part := by
      refine (List.map_congr_left fun c hc => if_neg ?_).trans (List.map_id part)
      rintro rfl
      exact hpart.2 hc
    exact hsame ▸ h.map unifySigma

/-- **Lower case does not depend on the neighbours**, for parts without the letter that does. -/
theorem infix_lower_iff (hpart : 'σ' ∉ part ∧ 'ς' ∉ part) :
    part <:+: lower cs ↔ part <:+: cs.flatMap lowerAlone := by
  rw [← infix_map_unifySigma hpart, lower, unifySigma_lowerFrom, infix_map_unifySigma hpart]

theorem lowerAlone_of_isBlank (h : isBlank c = true) : lowerAlone c = [c] :=
  lowerChar_of_isBlank h [] []

/-- Characters that have no case. -/
theorem infix_lower_caseless (hpart : 'σ' ∉ part ∧ 'ς' ∉ part)
    (h : ∀ c ∈ cs, lowerAlone c = [c]) : part <:+: lower cs ↔ part <:+: cs := by
  have hself : cs.flatMap lowerAlone = cs :=
    (List.flatMap_congr h).trans (List.flatMap_singleton' cs)
  rw [infix_lower_iff hpart, hself]

/-! ## parts without blanks -/

/-- A part without blanks, backslashes and the letter of two forms, that does not begin with the
letter n. -/
structure IsInner (part : List Char) : Prop where
  nonempty : part ≠ []
  inked : ∀ c ∈ part, isBlank c = false
  backslash : '\\' ∉ part
  sigma : 'σ' ∉ part ∧ 'ς' ∉ part
  head : part.head? ≠ some 'n'

namespace IsInner

variable (hpart : IsInner part)
include hpart

theorem not_infix_lower_nil : ¬ part <:+: lower [] :=
  fun h => hpart.nonempty (List.infix_nil.mp h)

theorem not_mem_of_isBlank (h : isBlank c = true) : c ∉ part := by
  intro hc
  rw [hpart.inked c hc] at h
  cases h

theorem infix_lower_append_cons (xs : List Char) (hc : c ∉ part) (hlower : lowerAlone c = [c]) :
    part <:+: lower (xs ++ c :: ys) ↔ part <:+: lower xs ∨ part <:+: lower ys := by
  rw [infix_lower_iff hpart.sigma, infix_lower_iff hpart.sigma, infix_lower_iff hpart.sigma,
    List.flatMap_append, List.flatMap_cons, hlower, List.singleton_append,
    infix_append_cons_iff hc]

theorem infix_lower_cons (hc : c ∉ part) (hlower : lowerAlone c = [c]) :
    part <:+: lower (c :: ys) ↔ part <:+: lower ys :=
  (hpart.infix_lower_append_cons [] hc hlower).trans (or_iff_right hpart.not_infix_lower_nil)

theorem infix_lower_blank_append (h : IsBlankText xs) (ys : List Char) :
    part <:+: lower (xs ++ ys) ↔ part <:+: lower ys := by
  induction xs with
  | nil => rfl
  | cons c xs ih =>
    rw [IsBlankText, List.forall_mem_cons] at h
    rw [List.cons_append,
      hpart.infix_lower_cons (hpart.not_mem_of_isBlank h.1) (lowerAlone_of_isBlank h.1), ih h.2]

theorem infix_lower_append_blank (h : IsBlankText ys) :
    part <:+: lower (xs ++ ys) ↔ part <:+: lower xs := by
  cases ys with
  | nil => rw [List.append_nil]
  | cons c ys =>
    have hblank := h c List.mem_cons_self
    have hys := hpart.infix_lower_blank_append (List.forall_mem_cons.mp h).2 []
    rw [List.append_nil] at hys
    rw [hpart.infix_lower_append_cons _ (hpart.not_mem_of_isBlank hblank)
      (lowerAlone_of_isBlank hblank), hys, or_iff_left hpart.not_infix_lower_nil]

/-- **Trimming keeps the parts of a text.** -/
theorem infix_lower_trim : part <:+: lower (trim cs) ↔ part <:+: lower cs := by
  obtain ⟨front, back, hcs, hfront, hback⟩ := exists_trim cs
  conv => rhs; rw [hcs]
  rw [hpart.infix_lower_blank_append hfront, hpart.infix_lower_append_blank hback]

theorem infix_lower_n : part <:+: lower ('n' :: cs) ↔ part <:+: lower cs := by
  have hlower : lowerAlone 'n' = ['n'] := by decide
  rw [infix_lower_iff hpart.sigma, infix_lower_iff hpart.sigma, List.flatMap_cons, hlower,
    List.singleton_append, List.infix_cons_iff, or_iff_right]
  intro hfront
  obtain ⟨c, part, rfl⟩ := List.exists_cons_of_ne_nil hpart.nonempty
  have hc := (List.cons_prefix_cons.mp hfront).1
  exact hpart.head (congrArg some hc)

/-- **So does the breaking of lines**: the letter that goes with its backslash begins no part. -/
theorem infix_lower_breakLines (xs : List Char) :
    part <:+: lower (xs ++ breakLines cs) ↔ part <:+: lower (xs ++ cs) := by
  induction cs using breakLines.induct generalizing xs with
  | case1 => rfl
  | case2 cs ih =>
    have hline : lowerAlone '\n' = ['\n'] := by decide
    have hbackslash : lowerAlone '\\' = ['\\'] := by decide
    rw [breakLines, hpart.infix_lower_append_cons _ hpart.backslash hbackslash, hpart.infix_lower_n,
      hpart.infix_lower_append_cons _ (hpart.not_mem_of_isBlank isBlank_newline) hline]
    exact or_congr_right (ih [])
  | case3 c cs hc ih =>
    rw [breakLines_cons (unbroken hc), List.append_cons xs c (breakLines cs),
      List.append_cons xs c cs]
    exact ih (xs ++ [c])

end IsInner

end

end AlgebraDesk.Text

import AlgebraDesk.Proofs.Text
import AlgebraDesk.Text.Alphanumeric

/-!
# Words at the beginning of a text

A text begins with a keyword when one of its beginnings spells it, letter by letter and in any case.
Such a word holds no blank, so it is found again behind blanks, and what follows it is all that is
left when it is taken off.

* `Spells`, `BeginsWith`       words that are a keyword, and texts that begin with one;
* `dropKeyword?_eq_some`       what is left behind a keyword;
* `IsGap`                      blanks within a line;
* `isWordChar_of_isBlank`      a blank ends a word;
* `trimEnd_append`, `mem_trim`   what trimming leaves where it is.
-/

namespace AlgebraDesk.Text

section
variable {k c : Char} {ks cs ds word rest : List Char} {keyword : String}

/-! ## words in any letter case -/

/-- Only the letter i has more than its two cases. -/
theorem sameLetter_eq (hk : k ≠ 'i') (c : Char) : sameLetter k c = (c.toLower == k) := by
  unfold sameLetter
  rw [beq_eq_false_iff_ne.mpr hk, Bool.false_and, Bool.or_false]

/-- A word that is the keyword, letter by letter and in any case. -/
def Spells (ks word : List Char) : Prop :=
  List.Forall₂ (fun k c => sameLetter k c = true) ks word

instance (ks word : List Char) : Decidable (Spells ks word) :=
  inferInstanceAs (Decidable (List.Forall₂ _ ks word))

/-- What follows is not looked at. -/
def BeginsWith (keyword : String) (cs : List Char) : Prop :=
  ∃ word rest, Spells keyword.toList word ∧ cs = word ++ rest

/-- **A keyword is taken off with the word that spells it.** -/
theorem dropKeyword?_eq_some :
    dropKeyword? ks cs = some rest ↔ ∃ word, Spells ks word ∧ cs = word ++ rest := by
  induction ks generalizing cs with
  | nil =>
    rw [dropKeyword?_nil, Option.some.injEq]
    constructor
    · intro h
      exact ⟨[], .nil, h⟩
    · rintro ⟨word, hword, rfl⟩
      cases hword
      rfl
  | cons k ks ih =>
    cases cs with
    | nil =>
      refine iff_of_false nofun ?_
      rintro ⟨word, hword, h⟩
      cases hword
      cases h
    | cons c cs =>
      rw [dropKeyword?]
      constructor
      · intro h
        split at h
        · rename_i hletter
          obtain ⟨word, hword, rfl⟩ := ih.mp h
          exact ⟨c :: word, .cons hletter hword, rfl⟩
        · cases h
      · rintro ⟨word, hword, h⟩
        cases hword with
        | cons hletter hword =>
          cases h
          rw [if_pos hletter]
          exact ih.mpr ⟨_, hword, rfl⟩

theorem Spells.ne_nil (h : Spells (k :: ks) word) : word ≠ [] := by
  rintro rfl
  cases h

theorem Spells.drop (h : Spells ks word) (rest : List Char) :
    dropKeyword? ks (word ++ rest) = some rest := dropKeyword?_eq_some.mpr ⟨word, h, rfl⟩

theorem isSome_dropKeyword? :
    (dropKeyword? keyword.toList cs).isSome = true ↔ BeginsWith keyword cs := by
  rw [Option.isSome_iff_exists]
  constructor
  · rintro ⟨rest, h⟩
    obtain ⟨word, hword, hcs⟩ := dropKeyword?_eq_some.mp h
    exact ⟨word, rest, hword, hcs⟩
  · rintro ⟨word, rest, hword, rfl⟩
    exact ⟨rest, hword.drop rest⟩

instance (keyword : String) (cs : List Char) : Decidable (BeginsWith keyword cs) :=
  decidable_of_iff _ isSome_dropKeyword?

theorem dropKeyword?_of_not_beginsWith (h : ¬ BeginsWith keyword cs) :
    dropKeyword? keyword.toList cs = none := by
  rw [← Option.not_isSome_iff_eq_none]
  exact mt isSome_dropKeyword?.mp h

/-! ## blanks -/

/-- Blanks within a line. -/
structure IsGap (cs : List Char) : Prop where
  blank : IsBlankText cs
  inline : '\n' ∉ cs

theorem isGap_nil : IsGap [] := ⟨isBlankText_nil, List.not_mem_nil⟩

theorem isGap_space : IsGap [' '] := ⟨by decide, by decide⟩

theorem toLower_of_isBlank (h : isBlank c = true) : c.toLower = c := by
  have hcase : (Char.ofNat c.toNat).toLower = Char.ofNat c.toNat :=
    of_inSpans (P := fun n => (Char.ofNat n).toLower = Char.ofNat n) (by decide +kernel) h
  rwa [Char.ofNat_toNat] at hcase

/-- No letter of a keyword is a blank in any case. -/
theorem isBlank_of_sameLetter (hk : isBlank k = false) (h : sameLetter k c = true) :
    isBlank c = false := by
  rw [← Bool.not_eq_true]
  intro hblank
  unfold sameLetter at h
  rw [toLower_of_isBlank hblank, Bool.or_eq_true, Bool.and_eq_true, Bool.or_eq_true] at h
  simp only [beq_iff_eq] at h
  rcases h with rfl | ⟨-, rfl | rfl⟩
  · exact Bool.false_ne_true (hk.symm.trans hblank)
  · exact absurd hblank (by decide)
  · exact absurd hblank (by decide)

theorem Spells.inked (h : Spells ks word) (hks : ks.any isBlank = false) :
    ∀ c ∈ word, isBlank c = false := by
  induction h with
  | nil => exact nofun
  | cons hletter _ ih =>
    rw [List.any_cons, Bool.or_eq_false_iff] at hks
    rw [List.forall_mem_cons]
    exact ⟨isBlank_of_sameLetter hks.1 hletter, ih hks.2⟩

theorem head_of_inked (hne : word ≠ []) (h : ∀ c ∈ word, isBlank c = false) (rest : List Char) :
    ∀ c ∈ (word ++ rest).head?, isBlank c = false := by
  intro c hc
  rw [List.head?_append_of_ne_nil _ hne] at hc
  exact h c (List.mem_of_mem_head? hc)

theorem not_mem_newline (h : ∀ c ∈ cs, isBlank c = false) : '\n' ∉ cs := by
  intro hmem
  have hnewline : isBlank '\n' = false := h _ hmem
  rw [isBlank_newline] at hnewline
  cases hnewline

theorem isWordChar_of_isBlank (h : isBlank c = true) : isWordChar c = false := by
  have hclass : isWordChar (Char.ofNat c.toNat) = false :=
    of_inSpans (P := fun n => isWordChar (Char.ofNat n) = false) (by decide +kernel) h
  rwa [Char.ofNat_toNat] at hclass

/-! ## trimming -/

theorem mem_removeBlanks : c ∈ removeBlanks cs ↔ c ∈ cs ∧ isBlank c = false := by
  simp [removeBlanks]

/-- What is not blank is not trimmed. -/
theorem mem_trim (hc : isBlank c = false) : c ∈ trim cs ↔ c ∈ cs := by
  have h : c ∈ removeBlanks (trim cs) ↔ c ∈ removeBlanks cs := by rw [removeBlanks_trim]
  simpa only [mem_removeBlanks, hc, and_true] using h

theorem of_mem_trim (h : c ∈ trim cs) : c ∈ cs := by
  obtain ⟨front, back, hcs, -, -⟩ := exists_trim cs
  rw [hcs]
  exact List.mem_append_right _ (List.mem_append_left _ h)

theorem trim_trimEnd (cs : List Char) : trim (trimEnd cs) = trim cs := by
  obtain ⟨back, hcs, hback⟩ := exists_trimEnd cs
  conv => rhs; rw [hcs]
  exact (trim_append_blank hback _).symm

theorem head_of_trim (h : trim cs = cs) : ∀ c ∈ cs.head?, isBlank c = false := by
  have hhead : ∀ c ∈ (trim cs).head?, isBlank c = false := head_trimEnd (head_dropWhile _ cs)
  rwa [h] at hhead

theorem trimEnd_of_trim (h : trim cs = cs) : trimEnd cs = cs := by
  have hagain : trimEnd (trim cs) = trim cs := trimEnd_trimEnd _
  rwa [h] at hagain

/-- The end of a text is the end of its last part. -/
theorem trimEnd_append (hne : ds ≠ []) (h : trimEnd ds = ds) (cs : List Char) :
    trimEnd (cs ++ ds) = cs ++ ds := by
  rw [trimEnd_eq, List.rdropWhile_eq_self_iff] at h ⊢
  intro hne'
  rw [List.getLast_append_of_ne_nil hne' hne]
  exact h hne

end

end AlgebraDesk.Text

import AlgebraDesk.Proofs.Lists
import AlgebraDesk.Text.Blank
import AlgebraDesk.Text.Case
import AlgebraDesk.Text.Keyword
import AlgebraDesk.Text.Line
import Mathlib.Data.List.DropRight

/-!
# Trimming and splitting

* `trim_of_plain`, `trim_trim`   a text without blanks is trimmed, and so is what was trimmed;
* `exists_trim`, `trim_between`  a text is what is trimmed of it, between blanks;
* `removeBlanks_trim`, `trim_breakLines_trim`   what does not look at the blanks at the two ends;
* `trim_append`   the two ends are trimmed apart;
* `mem_lower_of_isBlank`   a blank has no letter case;
* `pieces_append`, `length_pieces`   where a text is cut;
* `dropKeyword?_eq_none`   a text whose first character does not belong to the keyword;
* `mem_of_holds`   a text that holds a part.
-/

namespace AlgebraDesk.Text

section
variable {c : Char} {cs ds : List Char}

/-! ## trimming -/

theorem trimStart_of_head (h : ∀ c ∈ cs.head?, isBlank c = false) : trimStart cs = cs := by
  have hdrop : ([] ++ cs).dropWhile isBlank = cs := dropWhile_append_stop nofun h
  exact hdrop

theorem trimEnd_eq (cs : List Char) : trimEnd cs = cs.rdropWhile isBlank := rfl

theorem trimEnd_trimEnd (cs : List Char) : trimEnd (trimEnd cs) = trimEnd cs :=
  List.rdropWhile_idempotent isBlank cs

theorem head_trimEnd (h : ∀ c ∈ cs.head?, isBlank c = false) :
    ∀ c ∈ (trimEnd cs).head?, isBlank c = false := by
  intro c hc
  obtain ⟨rest, hrest⟩ : trimEnd cs <+: cs := List.rdropWhile_prefix isBlank cs
  refine h c ?_
  rw [← hrest, List.head?_append, Option.mem_def.mp hc]
  rfl

/-- **What was trimmed is trimmed already.** -/
theorem trim_trim (cs : List Char) : trim (trim cs) = trim cs := by
  have hhead : ∀ c ∈ (trim cs).head?, isBlank c = false := head_trimEnd (head_dropWhile _ cs)
  show trimEnd (trimStart (trim cs)) = trim cs
  rw [trimStart_of_head hhead]
  exact trimEnd_trimEnd _

theorem trim_of_plain (h : ∀ c ∈ cs, isBlank c = false) : trim cs = cs := by
  unfold trim
  rw [trimStart_of_head fun c hc => h c (List.mem_of_mem_head? hc), trimEnd_eq,
    List.rdropWhile_eq_self_iff]
  intro hne
  rw [h _ (List.getLast_mem hne)]
  exact Bool.false_ne_true

theorem trimEnd_append_plain (hcs : ∀ c ∈ cs, isBlank c = false) (ds : List Char) :
    trimEnd (cs ++ ds) = cs ++ trimEnd ds := by
  have hrev : cs.reverse.dropWhile isBlank = cs.reverse :=
    trimStart_of_head fun c hc => hcs c (List.mem_reverse.mp (List.mem_of_mem_head? hc))
  unfold trimEnd
  rw [List.reverse_append, List.dropWhile_append]
  split
  · rename_i hnil
    rw [hrev, List.isEmpty_iff.mp hnil, List.reverse_nil, List.append_nil, List.reverse_reverse]
  · rw [List.reverse_append, List.reverse_reverse]

/-! ## blanks at the ends -/

/-- nothing but blanks -/
def IsBlankText (cs : List Char) : Prop := ∀ c ∈ cs, isBlank c = true

instance (cs : List Char) : Decidable (IsBlankText cs) := decidable_of_iff _ List.all_eq_true

theorem isBlankText_nil : IsBlankText [] := nofun

theorem exists_trimStart (cs : List Char) :
    ∃ front, cs = front ++ trimStart cs ∧ IsBlankText front :=
  ⟨cs.takeWhile isBlank, List.takeWhile_append_dropWhile.symm,
    fun _ hc => List.mem_takeWhile_imp hc⟩

theorem exists_trimEnd (cs : List Char) : ∃ back, cs = trimEnd cs ++ back ∧ IsBlankText back := by
  refine ⟨(cs.reverse.takeWhile isBlank).reverse, ?_, fun c hc => ?_⟩
  · rw [trimEnd, ← List.reverse_append, List.takeWhile_append_dropWhile, List.reverse_reverse]
  · exact List.mem_takeWhile_imp (List.mem_reverse.mp hc)

theorem exists_trim (cs : List Char) : ∃ front back, cs = front ++ (trim cs ++ back) ∧
    IsBlankText front ∧ IsBlankText back := by
  obtain ⟨front, hstart, hfront⟩ := exists_trimStart cs
  obtain ⟨back, hend, hback⟩ := exists_trimEnd (trimStart cs)
  refine ⟨front, back, ?_, hfront, hback⟩
  show cs = front ++ (trimEnd (trimStart cs) ++ back)
  rw [← hend]
  exact hstart

theorem trimEnd_append_blank (h : IsBlankText ds) (cs : List Char) :
    trimEnd (cs ++ ds) = trimEnd cs := by
  unfold trimEnd
  rw [List.reverse_append, List.dropWhile_append_of_pos fun c hc => h c (List.mem_reverse.mp hc)]

theorem trim_append_blank (h : IsBlankText ds) (cs : List Char) : trim (cs ++ ds) = trim cs := by
  unfold trim trimStart
  rw [List.dropWhile_append]
  split
  · rename_i hnil
    rw [dropWhile_all h, List.isEmpty_iff.mp hnil]
  · exact trimEnd_append_blank h _

/-- **Blanks on both sides do not count.** -/
theorem trim_between {front back : List Char} (hfront : IsBlankText front)
    (hback : IsBlankText back) (cs : List Char) : trim (front ++ (cs ++ back)) = trim cs := by
  have hstart : trimStart (front ++ (cs ++ back)) = trimStart (cs ++ back) :=
    List.dropWhile_append_of_pos hfront
  rw [trim, hstart]
  exact trim_append_blank hback cs

theorem trim_blank_append (h : IsBlankText cs) (ds : List Char) : trim (cs ++ ds) = trim ds := by
  have hboth : trim (cs ++ (ds ++ [])) = trim ds := trim_between h isBlankText_nil ds
  rwa [List.append_nil] at hboth

theorem removeBlanks_of_blank (h : IsBlankText cs) : removeBlanks cs = [] := by
  unfold removeBlanks
  rw [List.filter_eq_nil_iff]
  intro c hc
  simp [h c hc]

theorem removeBlanks_trimStart (cs : List Char) :
    removeBlanks (trimStart cs) = removeBlanks cs := by
  have hblank : IsBlankText (cs.takeWhile isBlank) := fun c hc => List.mem_takeWhile_imp hc
  conv => rhs; rw [← List.takeWhile_append_dropWhile (p := isBlank) (l := cs)]
  rw [removeBlanks_append, removeBlanks_of_blank hblank, List.nil_append]
  rfl

theorem removeBlanks_trimEnd (cs : List Char) : removeBlanks (trimEnd cs) = removeBlanks cs := by
  obtain ⟨back, hcs, hback⟩ := exists_trimEnd cs
  conv => rhs; rw [hcs]
  rw [removeBlanks_append, removeBlanks_of_blank hback, List.append_nil]

theorem removeBlanks_trim (cs : List Char) : removeBlanks (trim cs) = removeBlanks cs := by
  rw [trim, removeBlanks_trimEnd, removeBlanks_trimStart]

/-- **Around a character that is not blank the two ends are trimmed apart.** -/
theorem trim_append (hc : isBlank c = false) (cs ds : List Char) :
    trim (cs ++ c :: ds) = trimStart cs ++ c :: trimEnd ds := by
  have hnot : ¬ isBlank c = true := by
    rw [hc]
    exact Bool.false_ne_true
  have hstart : trimStart (cs ++ c :: ds) = trimStart cs ++ c :: ds := by
    unfold trimStart
    rw [List.dropWhile_append]
    split
    · rename_i hnil
      rw [List.isEmpty_iff.mp hnil, List.dropWhile_cons_of_neg hnot, List.nil_append]
    · rfl
  have hend : ∀ bs : List Char, trimEnd (bs ++ c :: ds) = bs ++ c :: trimEnd ds := by
    intro bs
    unfold trimEnd
    rw [List.reverse_append, List.reverse_cons, List.append_assoc, List.dropWhile_append]
    split
    · rename_i hnil
      rw [List.isEmpty_iff.mp hnil]
      simp [hnot]
    · simp
  rw [trim, hstart, hend]

theorem hasInk_eq (cs : List Char) : hasInk cs = !(removeBlanks cs).isEmpty := by
  induction cs with
  | nil => rfl
  | cons c cs ih =>
    have hcons : hasInk (c :: cs) = (!isBlank c || hasInk cs) := rfl
    rw [hcons, ih, removeBlanks_cons]
    cases isBlank c <;> rfl

/-! ## two lines typed as one -/

theorem breakLines_cons (h : c ≠ '\\' ∨ cs.head? ≠ some 'n') :
    breakLines (c :: cs) = c :: breakLines cs := by
  rw [breakLines]
  rintro rest rfl rfl
  rcases h with h | h
  · exact h rfl
  · exact h rfl

/-- The last of the three cases in which lines are broken. -/
theorem unbroken (h : ∀ rest, c = '\\' → cs = 'n' :: rest → False) :
    c ≠ '\\' ∨ cs.head? ≠ some 'n' := by
  by_contra hne
  push Not at hne
  obtain ⟨rest, hrest⟩ := List.head?_eq_some_iff.mp hne.2
  exact h rest hne.1 hrest

/-- Behind a text without a backslash the rest is read on its own. -/
theorem breakLines_append_left (h : ∀ d ∈ cs, d ≠ '\\') (ds : List Char) :
    breakLines (cs ++ ds) = cs ++ breakLines ds := by
  induction cs with
  | nil => rfl
  | cons d cs ih =>
    rw [List.forall_mem_cons] at h
    rw [List.cons_append, breakLines_cons (.inl h.1), ih h.2, List.cons_append]

/-- A text that does not begin with the letter n may follow any other. -/
theorem breakLines_append (h : ds.head? ≠ some 'n') (cs : List Char) :
    breakLines (cs ++ ds) = breakLines cs ++ breakLines ds := by
  induction cs using breakLines.induct with
  | case1 => rfl
  | case2 cs ih =>
    show '\n' :: breakLines (cs ++ ds) = '\n' :: breakLines cs ++ breakLines ds
    rw [ih, List.cons_append]
  | case3 c cs hc ih =>
    have hhead : c ≠ '\\' ∨ (cs ++ ds).head? ≠ some 'n' := by
      refine (unbroken hc).imp id fun hn => ?_
      cases cs with
      | nil => exact h
      | cons d cs => exact hn
    rw [List.cons_append, breakLines_cons hhead, breakLines_cons (unbroken hc), ih,
      List.cons_append]

/-- A class that has no part in the ends of lines. -/
theorem any_breakLines {p : Char → Bool} (hnewline : p '\n' = false) (hbackslash : p '\\' = false)
    (hn : p 'n' = false) (cs : List Char) : (breakLines cs).any p = cs.any p := by
  induction cs using breakLines.induct with
  | case1 => rfl
  | case2 cs ih =>
    rw [breakLines, List.any_cons, List.any_cons, List.any_cons, ih, hnewline, hbackslash, hn,
      Bool.false_or, Bool.false_or]
  | case3 c cs hc ih => rw [breakLines_cons (unbroken hc), List.any_cons, List.any_cons, ih]

theorem ne_backslash_of_isBlank (h : isBlank c = true) : c ≠ '\\' := by
  rintro rfl
  exact absurd h (by decide)

/-- **Trimming may come first.** -/
theorem trim_breakLines_trim (cs : List Char) :
    trim (breakLines (trim cs)) = trim (breakLines cs) := by
  obtain ⟨front, back, hcs, hfront, hback⟩ := exists_trim cs
  have hend : breakLines (trim cs ++ back) = breakLines (trim cs) ++ back := by
    have hn : back.head? ≠ some 'n' := by
      intro h
      exact absurd (hback 'n' (List.mem_of_mem_head? h)) (by decide)
    have hself := breakLines_append_left (fun d hd => ne_backslash_of_isBlank (hback d hd)) []
    rw [List.append_nil] at hself
    rw [breakLines_append hn, hself, breakLines, List.append_nil]
  conv => rhs; rw [hcs]
  rw [breakLines_append_left (fun d hd => ne_backslash_of_isBlank (hfront d hd)), hend,
    trim_between hfront hback]

/-! ## letter case -/

/-- The characters of a class are in one of its spans. -/
theorem of_inSpans {spans : List Span} {P : Nat → Prop}
    (hP : ∀ s ∈ spans, ∀ i < s.2 + 1 - s.1, P (s.1 + i)) (h : inSpans spans c = true) :
    P c.toNat := by
  obtain ⟨s, hs, hc⟩ := List.any_eq_true.mp h
  have hc' : s.1 ≤ c.toNat ∧ c.toNat ≤ s.2 := by simpa using hc
  have hi := hP s hs (c.toNat - s.1) (by omega)
  rwa [Nat.add_sub_cancel' hc'.1] at hi

/-- The blanks one after the other. -/
theorem lowerChar_of_isBlank (h : isBlank c = true) (before after : List Char) :
    lowerChar before c after = [c] := by
  have hcase : (if c.toNat < 0x80 then (Char.ofNat c.toNat).toLower = Char.ofNat c.toNat
      else Char.ofNat c.toNat ≠ 'Σ' ∧ Char.ofNat c.toNat ≠ 'İ' ∧
        mapCase lowerRuns (Char.ofNat c.toNat) = Char.ofNat c.toNat) :=
    of_inSpans (P := fun n => if n < 0x80 then (Char.ofNat n).toLower = Char.ofNat n
      else Char.ofNat n ≠ 'Σ' ∧ Char.ofNat n ≠ 'İ' ∧
        mapCase lowerRuns (Char.ofNat n) = Char.ofNat n) (by decide +kernel) h
  rw [Char.ofNat_toNat] at hcase
  unfold lowerChar
  split
  · rename_i hascii
    rw [if_pos hascii] at hcase
    rw [hcase]
  · rename_i hascii
    rw [if_neg hascii] at hcase
    rw [if_neg (by simpa using hcase.1), if_neg (by simpa using hcase.2.1), hcase.2.2]

theorem mem_lower_of_isBlank (hc : isBlank c = true) (h : c ∈ cs) : c ∈ lower cs := by
  have hfrom : ∀ before, c ∈ lowerFrom before cs := by
    induction cs with
    | nil => cases h
    | cons d cs ih =>
      intro before
      rw [lowerFrom, List.mem_append]
      rcases List.mem_cons.mp h with rfl | h
      · rw [lowerChar_of_isBlank hc]
        exact .inl List.mem_cons_self
      · exact .inr (ih h _)
  exact hfrom []

/-! ## splitting -/

variable {cut : Char → Bool}

theorem pieces_append (hcs : ∀ d ∈ cs, cut d = false) (hc : cut c = true) :
    pieces cut (cs ++ c :: ds) = cs :: pieces cut ds := by
  induction cs with
  | nil => exact if_pos hc
  | cons d cs ih =>
    rw [List.forall_mem_cons] at hcs
    rw [List.cons_append, pieces, if_neg (by rw [hcs.1]; exact Bool.false_ne_true), ih hcs.2]

theorem pieces_uncut (hcs : ∀ d ∈ cs, cut d = false) : pieces cut cs = [cs] := by
  induction cs with
  | nil => rfl
  | cons d cs ih =>
    rw [List.forall_mem_cons] at hcs
    rw [pieces, if_neg (by rw [hcs.1]; exact Bool.false_ne_true), ih hcs.2]

/-- There is one piece more than there are cuts. -/
theorem length_pieces (cut : Char → Bool) (cs : List Char) :
    (pieces cut cs).length = cs.countP cut + 1 := by
  induction cs with
  | nil => rfl
  | cons d cs ih =>
    rw [pieces, List.countP_cons]
    split
    · rw [List.length_cons, ih]
    · split
      · rename_i hnil
        exact absurd hnil (pieces_ne_nil cut cs)
      · rename_i p ps hcons
        rw [hcons] at ih
        exact ih

/-! ## keywords -/

theorem dropKeyword?_eq_none {k : Char} {ks : List Char}
    (h : ∀ c ∈ cs.head?, sameLetter k c = false) : dropKeyword? (k :: ks) cs = none := by
  cases cs with
  | nil => rfl
  | cons c cs =>
    unfold dropKeyword?
    rw [h c rfl, if_neg Bool.false_ne_true]

theorem dropExactly?_eq_none {k : Char} {ks : List Char} (h : cs.head? ≠ some k) :
    dropExactly? (k :: ks) cs = none := by
  cases cs with
  | nil => rfl
  | cons c cs =>
    have hne : k ≠ c := by
      rintro rfl
      exact h rfl
    unfold dropExactly?
    rw [beq_eq_false_iff_ne.mpr hne, if_neg Bool.false_ne_true]

theorem of_dropExactly? {ks rest : List Char} (h : dropExactly? ks cs = some rest) :
    cs = ks ++ rest := by
  induction ks generalizing cs with
  | nil => exact Option.some.inj ((dropExactly?_nil cs).symm.trans h)
  | cons k ks ih =>
    cases cs with
    | nil => cases h
    | cons c cs =>
      unfold dropExactly? at h
      split at h
      · rename_i hk
        rw [beq_iff_eq.mp hk, ih h, List.cons_append]
      · cases h

/-- A text that holds a part has its characters. -/
theorem mem_of_holds {part : List Char} (h : holds part cs = true) : ∀ c ∈ part, c ∈ cs := by
  induction cs with
  | nil =>
    rw [List.isEmpty_iff.mp h]
    exact nofun
  | cons d cs ih =>
    unfold holds at h
    rcases Bool.or_eq_true _ _ ▸ h with h | h
    · obtain ⟨rest, hrest⟩ := Option.isSome_iff_exists.mp h
      intro c hc
      rw [of_dropExactly? hrest]
      exact List.mem_append_left _ hc
    · exact fun c hc => List.mem_cons_of_mem _ (ih h c hc)

end

end AlgebraDesk.Text

import AlgebraDesk.Proofs.Text

/-!
# The lines of a text

A text is cut at every line break, so the lines of two texts with a line break between them are the
lines of the one and then those of the other.  Blank lines are not counted, wherever they stand, and
a text does not change its lines when it is trimmed.

* `exists_pieces`               cutting a text that another one follows;
* `inkedLines_append_break`     lines on both sides of a line break;
* `inkedLines_intercalate`      lines that are put one below the other;
* `inkedLines_trim`             blanks at the two ends;
* `mem_trim_between`            what stands between ink is not trimmed;
* `pieces_removeBlanks`         cuts that are not blanks do not see blanks.
-/

namespace AlgebraDesk.Text

section
variable {cut : Char → Bool} {c : Char} {cs ds line : List Char}

/-! ## pieces -/

/-- The last piece of a text goes on with the first piece of what follows. -/
theorem exists_pieces (cut : Char → Bool) (cs : List Char) :
    ∃ init last, ∀ ds first tail, pieces cut ds = first :: tail →
      pieces cut (cs ++ ds) = init ++ (last ++ first) :: tail := by
  -- a character that is no cut goes to the first piece, which is the last one if there is no other
  induction cs with
  | nil => exact ⟨[], [], fun ds first tail h => h⟩
  | cons c cs ih =>
    obtain ⟨init, last, hcs⟩ := ih
    by_cases hc : cut c = true
    · refine ⟨[] :: init, last, fun ds first tail h => ?_⟩
      rw [List.cons_append, pieces, if_pos hc, hcs ds first tail h, List.cons_append]
    · cases init with
      | nil =>
        refine ⟨[], c :: last, fun ds first tail h => ?_⟩
        rw [List.cons_append, pieces, if_neg hc, hcs ds first tail h]
        rfl
      | cons piece init =>
        refine ⟨(c :: piece) :: init, last, fun ds first tail h => ?_⟩
        rw [List.cons_append, pieces, if_neg hc, hcs ds first tail h]
        rfl

/-- A text and what follows it, cut into pieces together and apart. -/
theorem exists_pieces_append (cut : Char → Bool) (cs ds : List Char) :
    ∃ init last first tail, pieces cut cs = init ++ [last] ∧ pieces cut ds = first :: tail ∧
      pieces cut (cs ++ ds) = init ++ (last ++ first) :: tail := by
  obtain ⟨init, last, hcs⟩ := exists_pieces cut cs
  obtain ⟨first, tail, hds⟩ := List.exists_cons_of_ne_nil (pieces_ne_nil cut ds)
  have halone := hcs [] [] [] (pieces_nil cut)
  rw [List.append_nil, List.append_nil] at halone
  exact ⟨init, last, first, tail, halone, hds, hcs ds first tail hds⟩

theorem pieces_append_cut (hc : cut c = true) (cs ds : List Char) :
    pieces cut (cs ++ c :: ds) = pieces cut cs ++ pieces cut ds := by
  obtain ⟨init, last, first, tail, hcs, hds, hboth⟩ := exists_pieces_append cut cs (c :: ds)
  rw [pieces, if_pos hc] at hds
  cases hds
  rw [hboth, hcs, List.append_nil, List.append_assoc, List.singleton_append]

theorem blank_of_mem_pieces (h : IsBlankText cs) : ∀ piece ∈ pieces cut cs, IsBlankText piece := by
  induction cs with
  | nil =>
    intro piece hpiece
    cases List.mem_singleton.mp hpiece
    exact isBlankText_nil
  | cons c cs ih =>
    have hboth : isBlank c = true ∧ ∀ d ∈ cs, isBlank d = true := List.forall_mem_cons.mp h
    rw [pieces]
    split
    · exact List.forall_mem_cons.mpr ⟨isBlankText_nil, ih hboth.2⟩
    · obtain ⟨piece, rest, hcs⟩ := List.exists_cons_of_ne_nil (pieces_ne_nil cut cs)
      rw [hcs] at ih ⊢
      have hrest := List.forall_mem_cons.mp (ih hboth.2)
      exact List.forall_mem_cons.mpr ⟨List.forall_mem_cons.mpr ⟨hboth.1, hrest.1⟩, hrest.2⟩

theorem pieces_removeBlanks (hcut : ∀ c, cut c = true → isBlank c = false) (cs : List Char) :
    pieces cut (removeBlanks cs) = (pieces cut cs).map removeBlanks := by
  induction cs with
  | nil => rfl
  | cons c cs ih =>
    obtain ⟨piece, rest, hcs⟩ := List.exists_cons_of_ne_nil (pieces_ne_nil cut cs)
    rw [hcs, List.map_cons] at ih
    rw [removeBlanks_cons]
    by_cases hc : cut c = true
    · rw [if_neg (by rw [hcut c hc]; exact Bool.false_ne_true), pieces, if_pos hc, pieces,
        if_pos hc, ih, hcs]
      rfl
    · by_cases hblank : isBlank c = true
      · rw [if_pos hblank, ih, pieces, if_neg hc, hcs, List.map_cons, removeBlanks_cons,
          if_pos hblank]
      · rw [if_neg hblank, pieces, if_neg hc, ih, pieces, if_neg hc, hcs, List.map_cons,
          removeBlanks_cons, if_neg hblank]

/-! ## ink -/

theorem hasInk_of_blank (h : IsBlankText cs) : hasInk cs = false := by
  rw [hasInk_eq, removeBlanks_of_blank h]
  rfl

theorem not_blank_of_hasInk (h : hasInk cs = true) : ¬ IsBlankText cs := by
  intro hblank
  rw [hasInk_of_blank hblank] at h
  cases h

theorem hasInk_append_blank (h : IsBlankText ds) (cs : List Char) :
    hasInk (cs ++ ds) = hasInk cs := by
  have hds := hasInk_of_blank h
  unfold hasInk at hds ⊢
  rw [List.any_append, hds, Bool.or_false]

theorem hasInk_blank_append (h : IsBlankText cs) (ds : List Char) :
    hasInk (cs ++ ds) = hasInk ds := by
  have hcs := hasInk_of_blank h
  unfold hasInk at hcs ⊢
  rw [List.any_append, hcs, Bool.false_or]

/-- **What stands between two texts with ink is not trimmed.** -/
theorem mem_trim_between (hcs : hasInk cs = true) (hds : hasInk ds = true) (c : Char) :
    c ∈ trim (cs ++ c :: ds) := by
  obtain ⟨front, back, htext, hfront, hback⟩ := exists_trim (cs ++ c :: ds)
  -- what is trimmed in front would have to reach over `cs`, and what is trimmed behind over `ds`
  rcases List.append_eq_append_iff.mp htext with ⟨rest, hrest, -⟩ | ⟨rest, -, hrest⟩
  · refine absurd (fun d hd => hfront d ?_) (not_blank_of_hasInk hcs)
    rw [hrest]
    exact List.mem_append_left _ hd
  · rcases List.append_eq_append_iff.mp hrest with ⟨rest, -, hrest⟩ | ⟨kept, hkept, hback'⟩
    · refine absurd (fun d hd => hback d ?_) (not_blank_of_hasInk hds)
      rw [hrest]
      exact List.mem_append_right _ (List.mem_cons_of_mem _ hd)
    · cases kept with
      | nil =>
        refine absurd (fun d hd => hback d ?_) (not_blank_of_hasInk hds)
        rw [List.nil_append] at hback'
        rw [← hback']
        exact List.mem_cons_of_mem _ hd
      | cons d kept =>
        cases hback'
        rw [hkept]
        exact List.mem_append_right _ List.mem_cons_self

/-! ## lines -/

/-- Text in one line that is not blank. -/
structure IsLine (line : List Char) : Prop where
  ink : hasInk line = true
  unbroken : ∀ c ∈ line, isLineBreak c = false

theorem isLine_iff : IsLine line ↔ (hasInk line && line.all (!isLineBreak ·)) = true := by
  rw [Bool.and_eq_true, List.all_eq_true]
  simp only [Bool.not_eq_true']
  exact ⟨fun h => ⟨h.ink, h.unbroken⟩, fun h => ⟨h.1, h.2⟩⟩

instance (line : List Char) : Decidable (IsLine line) := decidable_of_iff' _ isLine_iff

theorem inkedLines_line (h : IsLine line) : inkedLines line = [trim line] := by
  unfold inkedLines
  rw [pieces_uncut h.unbroken, List.filter_singleton, h.ink]
  rfl

theorem filter_blank {lines : List (List Char)} (h : ∀ line ∈ lines, IsBlankText line) :
    lines.filter hasInk = [] := by
  rw [List.filter_eq_nil_iff]
  intro line hline
  rw [hasInk_of_blank (h line hline)]
  exact Bool.false_ne_true

theorem inkedLines_blank (h : IsBlankText cs) : inkedLines cs = [] := by
  unfold inkedLines
  rw [filter_blank (blank_of_mem_pieces h), List.map_nil]

theorem hasInk_of_inkedLines (h : inkedLines cs ≠ []) : hasInk cs = true := by
  rw [← Bool.not_eq_false]
  intro hblank
  refine h (inkedLines_blank fun c hc => ?_)
  simpa using List.any_eq_false.mp hblank c hc

/-- **A line break ends a line and nothing else.** -/
theorem inkedLines_append_break (hc : isLineBreak c = true) (cs ds : List Char) :
    inkedLines (cs ++ c :: ds) = inkedLines cs ++ inkedLines ds := by
  unfold inkedLines
  rw [pieces_append_cut hc, List.filter_append, List.map_append]

theorem inkedLines_intercalate (lines : List (List Char)) :
    inkedLines (['\n'].intercalate lines) = lines.flatMap inkedLines := by
  induction lines with
  | nil => rfl
  | cons line lines ih =>
    by_cases hlines : lines = []
    · rw [hlines, List.intercalate_singleton, List.flatMap_singleton]
    · rw [List.intercalate_cons_of_ne_nil hlines, List.append_assoc, List.singleton_append,
        inkedLines_append_break (by decide), ih, List.flatMap_cons]

theorem inkedLines_append_blank (h : IsBlankText ds) (cs : List Char) :
    inkedLines (cs ++ ds) = inkedLines cs := by
  obtain ⟨init, last, first, tail, hcs, hds, hboth⟩ := exists_pieces_append isLineBreak cs ds
  have hblank : ∀ piece ∈ pieces isLineBreak ds, IsBlankText piece := blank_of_mem_pieces h
  rw [hds, List.forall_mem_cons] at hblank
  unfold inkedLines
  rw [hboth, hcs, List.filter_append, List.filter_append, List.filter_cons, List.filter_singleton,
    hasInk_append_blank hblank.1, filter_blank hblank.2, List.map_append, List.map_append]
  cases hasInk last with
  | true => exact congrArg (_ ++ [·]) (trim_append_blank hblank.1 last)
  | false => rfl

theorem inkedLines_blank_append (h : IsBlankText cs) (ds : List Char) :
    inkedLines (cs ++ ds) = inkedLines ds := by
  obtain ⟨init, last, first, tail, hcs, hds, hboth⟩ := exists_pieces_append isLineBreak cs ds
  have hblank : ∀ piece ∈ pieces isLineBreak cs, IsBlankText piece := blank_of_mem_pieces h
  rw [hcs, List.forall_mem_append, List.forall_mem_singleton] at hblank
  unfold inkedLines
  rw [hboth, hds, List.filter_append, filter_blank hblank.1, List.nil_append, List.filter_cons,
    List.filter_cons, hasInk_blank_append hblank.2]
  cases hasInk first with
  | true => exact congrArg (· :: _) (trim_blank_append hblank.2 first)
  | false => rfl

/-- **Trimming a text leaves its lines.** -/
theorem inkedLines_trim (cs : List Char) : inkedLines (trim cs) = inkedLines cs := by
  obtain ⟨front, back, hcs, hfront, hback⟩ := exists_trim cs
  conv => rhs; rw [hcs]
  rw [inkedLines_blank_append hfront, inkedLines_append_blank hback]

end

end AlgebraDesk.Text

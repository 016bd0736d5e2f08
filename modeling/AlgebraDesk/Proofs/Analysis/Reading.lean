import AlgebraDesk.Proofs.Analysis.Checked
import AlgebraDesk.Proofs.Polynomial.Extraction
import AlgebraDesk.Proofs.Text

/-!
# Texts are read without a fault

Reading a text as a polynomial, and an equation as the difference of its sides, does not fault.  The
positions that are looked at lie in the text, the text of a coefficient is a numeral wherever one is
asked for, and an item is taken only of as many sides as there are.

* `termsFrom_eq`        the terms from one of them on;
* `addTerm_eq`          one term;
* `extract_eq`, `equationPolynomial_eq`   a text and an equation.
-/

namespace AlgebraDesk.Analysis.Checked

open AlgebraDesk.Polynomial (Term isBareSign isSign IsSigned of_read? of_readPower splitTerms_run)

/-! ## terms -/

section
variable {cs run rest : List Char} {c : Char} {start i : Nat}

theorem termsFrom_done (h : cs.length < i) : termsFrom cs start i = .ok (some []) := by
  rw [termsFrom, dif_pos h]
  rfl

theorem termsFrom_inside (h : i ≤ cs.length) (hends : endsTerm cs i = .ok false) :
    termsFrom cs start i = termsFrom cs start (i + 1) := by
  rw [termsFrom, dif_neg (Nat.not_lt.mpr h), hends, ok_bind, if_neg Bool.false_ne_true]

theorem termsFrom_cut (h : i ≤ cs.length) (hends : endsTerm cs i = .ok true)
    (hterm : (cs.drop start).take (i - start) = c :: run) :
    termsFrom cs start i = if isBareSign (c :: run) then .ok none
      else termsFrom cs i (i + 1) >>= fun terms? => .ok (terms?.map ((c :: run) :: ·)) := by
  rw [termsFrom, dif_neg (Nat.not_lt.mpr h), hends, ok_bind, if_pos rfl, hterm]
  rfl

theorem endsTerm_length : endsTerm cs cs.length = .ok true := if_pos (beq_self_eq_true _)

theorem endsTerm_append (ds : List Char) : endsTerm (cs ++ c :: ds) cs.length = .ok (isSign c) := by
  have hinside : (cs.length == (cs ++ c :: ds).length) = false := by simp
  have hitem : item (cs ++ c :: ds) cs.length = .ok c := by
    unfold item
    rw [List.getElem?_append_right (Nat.le_refl _), Nat.sub_self]
    rfl
  unfold endsTerm
  rw [hinside, hitem]
  rfl

/-- The pending term, from where it begins to the position that is looked at. -/
theorem take_pending (seen term ds : List Char) :
    ((seen ++ term ++ ds).drop seen.length).take ((seen ++ term).length - seen.length) = term := by
  rw [List.append_assoc, List.drop_left, List.length_append, Nat.add_sub_cancel_left,
    List.take_left]

/-- **The terms from one of them on.**  What stands before it is not looked at again, nor is a part
of it that holds no further sign. -/
theorem termsFrom_eq (seen : List Char) (hrun : ∀ d ∈ run, isSign d = false) :
    termsFrom (seen ++ c :: run ++ rest) seen.length (seen ++ c :: run).length
      = .ok (Polynomial.splitTerms (c :: (run ++ rest))) := by
  induction rest generalizing seen c run with
  | nil =>
    have hterm := take_pending seen (c :: run) []
    rw [List.append_nil] at hterm
    rw [splitTerms_run hrun (.inl rfl), if_pos rfl, List.append_nil,
      termsFrom_cut (Nat.le_refl _) endsTerm_length hterm, termsFrom_done (Nat.lt_succ_self _)]
    cases isBareSign (c :: run) <;> rfl
  | cons d more ih =>
    have hinside : (seen ++ c :: run).length ≤ (seen ++ c :: run ++ d :: more).length :=
      (List.prefix_append _ _).length_le
    have hgrow : (seen ++ c :: run ++ [d]).length = (seen ++ c :: run).length + 1 := by
      rw [List.length_append, List.length_singleton]
    cases hd : isSign d with
    | false =>
      have hgrown : ∀ e ∈ run ++ [d], isSign e = false := by
        rw [List.forall_mem_append, List.forall_mem_singleton]
        exact ⟨hrun, hd⟩
      have hrest := @ih (run ++ [d]) c seen hgrown
      rw [← List.cons_append, ← List.append_assoc seen, hgrow, List.append_assoc,
        List.singleton_append, List.append_assoc run, List.singleton_append] at hrest
      rw [termsFrom_inside hinside (hd ▸ endsTerm_append _)]
      exact hrest
    | true =>
      have hterm := take_pending seen (c :: run) (d :: more)
      have hcut := splitTerms_run (c := c) hrun (.inr ⟨d, rfl, hd⟩ : _ ∨ IsSigned (d :: more))
      have hrest := @ih [] d (seen ++ c :: run) (List.forall_mem_nil _)
      rw [hgrow, List.append_assoc, List.singleton_append, List.nil_append] at hrest
      rw [termsFrom_cut hinside (hd ▸ endsTerm_append _) hterm, hrest, hcut,
        if_neg (List.cons_ne_nil d more)]
      cases isBareSign (c :: run) <;> rfl

theorem splitTerms_eq (cs : List Char) :
    splitTerms cs = .ok (Polynomial.splitTerms cs) := by
  cases cs with
  | nil =>
    rw [Polynomial.splitTerms]
    rfl
  | cons c rest =>
    exact @termsFrom_eq [] rest c [] (List.forall_mem_nil _)

/-! ## one term after the other -/

variable {t : Term} {p : Polynomial}

/-- **Where a number is asked for, a numeral stands.** -/
theorem termCoefficient_eq (h : Term.read? cs = some t) :
    termCoefficient t cs = .ok t.coefficient := by
  obtain ⟨sign, numeral, mark, hsign, hcs, hnegative, hpower, hnumeral⟩ := of_read? h
  rcases hnumeral with ⟨hnone, -⟩ | ⟨d, hsome, hspells⟩
  · unfold termCoefficient Term.coefficient
    rw [hnone]
    rfl
  · have hplain : ∀ c ∈ sign ++ numeral, (c != 'x') = true := by
      intro c hc
      rw [bne_iff_ne]
      rcases List.mem_append.mp hc with hc | hc
      · rcases hsign.mem c hc with rfl | rfl <;> decide
      · exact ne_of_class (hspells.plain c hc) (by decide)
    have hstop : ∀ c ∈ mark.head?, (c != 'x') = false := by
      intro c hc
      rcases of_readPower hpower with ⟨-, rfl⟩ | ⟨-, rfl⟩ | ⟨_, -, rfl⟩
      · cases hc
      · cases hc
        rfl
      · cases hc
        rfl
    have hbefore : cs.takeWhile (· != 'x') = sign ++ numeral := by
      rw [hcs, ← List.append_assoc]
      exact takeWhile_append_stop hplain hstop
    unfold termCoefficient Term.coefficient number
    rw [hsome, hbefore, hspells.real hsign, hnegative]
    rfl

theorem addTerm_eq (p : Polynomial) (cs : List Char) :
    addTerm p cs = .ok (Polynomial.addTerm p cs).toOption := by
  unfold addTerm Polynomial.addTerm
  cases hread : Term.read? cs with
  | none => rfl
  | some t =>
    simp only [termCoefficient_eq hread, ok_bind]
    rcases t.power with _ | _ | exponent
    · cases t.numeral?.isNone <;> rfl
    · rfl
    · by_cases hone : exponent = ['1']
      · simp only [if_pos hone]
        rfl
      · simp only [if_neg hone]
        by_cases htwo : exponent = ['2']
        · simp only [if_pos htwo]
          rfl
        · simp only [if_neg htwo]
          rfl

theorem addTerms_eq (p : Polynomial) (terms : List (List Char)) :
    addTerms p terms = .ok (terms.foldlM Polynomial.addTerm p).toOption := by
  induction terms generalizing p with
  | nil => rfl
  | cons cs terms ih =>
    rw [addTerms, addTerm_eq, ok_bind, List.foldlM_cons]
    cases Polynomial.addTerm p cs with
    | error e => rfl
    | ok q => exact ih q

/-! ## texts and equations -/

/-- **A text is read without a fault.** -/
theorem extract_eq (text : List Char) : extract text = .ok (Polynomial.extract? text) := by
  unfold extract Polynomial.extract? Polynomial.extract
  rw [splitTerms_eq, ok_bind]
  cases Polynomial.splitTerms (Polynomial.normalize text) with
  | none => rfl
  | some terms =>
    simp only [addTerms_eq, ok_bind]
    cases terms.foldlM Polynomial.addTerm .zero with
    | error e => rfl
    | ok p =>
      show (.ok (if p.isFinite then some p else none) : Except Fault _)
        = .ok (if p.isFinite then .ok p else .error .notFinite : Except Polynomial.Refusal _).toOption
      cases p.isFinite <;> rfl

theorem equationPolynomial_eq (text : List Char) :
    equationPolynomial text = .ok (equationPolynomial? text) := by
  unfold equationPolynomial equationPolynomial? equationSides?
  match Text.pieces (· == '=') text with
  | [] => rfl
  | [_] => rfl
  | [left, right] =>
    show (extract left >>= fun p? => extract right >>= fun q? => _) = .ok
      (Polynomial.extract? left >>= fun p => Polynomial.extract? right >>= fun q => some (p.sub q))
    rw [extract_eq, extract_eq, ok_bind, ok_bind]
    cases Polynomial.extract? left <;> cases Polynomial.extract? right <;> rfl
  | _ :: _ :: _ :: _ => rfl

end

end AlgebraDesk.Analysis.Checked

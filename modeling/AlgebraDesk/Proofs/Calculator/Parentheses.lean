import AlgebraDesk.Calculator.Evaluate
import AlgebraDesk.Proofs.Calculator.Neighbours

/-!
# How the ordering ends

The ordering refuses a list of tokens for its parentheses and for nothing else, and the message is
settled by counting: some beginning of the list closes more than it opens, or, when none does, the
whole opens more than it closes.  A list that is ordered keeps all its other tokens, and the
numerals keep their places among themselves.

A list made of other tokens may be ordered as well, since any symbol without precedence closes; but
no such symbol is written.

* `Overclosed`         some beginning closes more parentheses than it opens;
* `balanced_iff`       balance by counting;
* `toPostfix_outcome`  the three ends of the ordering;
* `Reads.perm`, `Reads.numbers`   what the postfix order keeps;
* `isPostfix_of_toPostfix`        only numerals and operations are written;
* `ordering_settled`   all of it.
-/

namespace AlgebraDesk.Calculator

/-! ## counting parentheses -/

def isParenthesis (t : Token) : Bool := t == opening || t == closing

/-- some beginning of the tokens closes more parentheses than it opens -/
def Overclosed (ts : List Token) : Prop :=
  ∃ us, us <+: ts ∧ us.count opening < us.count closing

theorem depthAfter_closing_zero (ts : List Token) : depthAfter? 0 (closing :: ts) = none := by
  simp [depthAfter?, show closing ≠ opening by decide]

theorem depthAfter_other {t : Token} (ho : t ≠ opening) (hc : t ≠ closing) (depth : Nat)
    (ts : List Token) : depthAfter? depth (t :: ts) = depthAfter? depth ts := by
  simp [depthAfter?, ho, hc]

/-- A beginning of a list is empty or begins with the first token. -/
theorem exists_prefix_cons {P : List Token → Prop} {t : Token} {ts : List Token} :
    (∃ us, us <+: t :: ts ∧ P us) ↔ P [] ∨ ∃ us, us <+: ts ∧ P (t :: us) := by
  constructor
  · rintro ⟨us, hus, hp⟩
    rcases List.prefix_cons_iff.mp hus with rfl | ⟨vs, rfl, hvs⟩
    · exact .inl hp
    · exact .inr ⟨vs, hvs, hp⟩
  · rintro (hp | ⟨us, hus, hp⟩)
    · exact ⟨[], List.nil_prefix, hp⟩
    · exact ⟨t :: us, (List.cons_prefix_cons).mpr ⟨rfl, hus⟩, hp⟩

theorem depthAfter_eq_none {ts : List Token} {depth : Nat} :
    depthAfter? depth ts = none ↔
      ∃ us, us <+: ts ∧ us.count opening + depth < us.count closing := by
  have hco : closing ≠ opening := by decide
  induction ts generalizing depth with
  | nil =>
    constructor
    · exact nofun
    · rintro ⟨us, hus, hlt⟩
      obtain rfl := List.prefix_nil.mp hus
      exact absurd hlt (Nat.not_lt_zero _)
  | cons t ts ih =>
    rw [exists_prefix_cons]
    by_cases ho : t = opening
    · subst ho
      rw [depthAfter_opening]
      refine ih.trans ?_
      simp only [List.count_nil, List.count_cons_self, List.count_cons_of_ne hco.symm,
        Nat.not_lt_zero, false_or, Nat.add_assoc, Nat.add_comm 1]
    by_cases hc : t = closing
    · subst hc
      cases depth with
      | zero =>
        -- the closing parenthesis alone is the beginning that closes too much
        rw [depthAfter_closing_zero]
        refine ⟨fun _ => .inr ⟨[], List.nil_prefix, ?_⟩, fun _ => rfl⟩
        decide
      | succ depth =>
        rw [depthAfter_closing]
        refine ih.trans ?_
        simp only [List.count_nil, List.count_cons_self, List.count_cons_of_ne hco,
          Nat.not_lt_zero, false_or, ← Nat.add_assoc, Nat.add_lt_add_iff_right]
    · rw [depthAfter_other ho hc]
      refine ih.trans ?_
      simp only [List.count_nil, List.count_cons_of_ne ho, List.count_cons_of_ne hc,
        Nat.not_lt_zero, false_or]

/-- What is open at the end is what the list opens and does not close. -/
theorem count_of_depthAfter {ts : List Token} :
    ∀ {depth depth' : Nat}, depthAfter? depth ts = some depth' →
      ts.count opening + depth = ts.count closing + depth' := by
  have hco : closing ≠ opening := by decide
  induction ts with
  | nil =>
    intro depth depth' h
    rw [Option.some.inj h]
    rfl
  | cons t ts ih =>
    intro depth depth' h
    by_cases ho : t = opening
    · subst ho
      rw [depthAfter_opening] at h
      rw [List.count_cons_self, List.count_cons_of_ne hco.symm, ← ih h]
      omega
    by_cases hc : t = closing
    · subst hc
      cases depth with
      | zero =>
        rw [depthAfter_closing_zero] at h
        cases h
      | succ depth =>
        rw [depthAfter_closing] at h
        have hcount := ih h
        rw [List.count_cons_self, List.count_cons_of_ne hco]
        omega
    · rw [depthAfter_other ho hc] at h
      rw [List.count_cons_of_ne ho, List.count_cons_of_ne hc, ih h]

theorem overclosed_iff {ts : List Token} : Overclosed ts ↔ depthAfter? 0 ts = none := by
  have h : depthAfter? 0 ts = none ↔ _ := depthAfter_eq_none
  exact h.symm

/-- **Balance by counting.** -/
theorem balanced_iff {ts : List Token} :
    Balanced ts ↔ ¬ Overclosed ts ∧ ts.count opening = ts.count closing := by
  rw [overclosed_iff]
  unfold Balanced
  cases h : depthAfter? 0 ts with
  | none => exact ⟨nofun, fun hn => absurd rfl hn.1⟩
  | some depth =>
    have hcount := count_of_depthAfter h
    constructor
    · intro e
      obtain rfl := Option.some.inj e
      exact ⟨nofun, hcount⟩
    · rintro ⟨-, e⟩
      rw [show depth = 0 by omega]

/-! ## where the ordering stops -/

namespace Yard

/-- A closing parenthesis is refused when none is open. -/
theorem close_error {y : Yard} {e : Error} (h : y.close = .error e) :
    e = .unexpectedClose ∧ y.depth = 0 := by
  have hd : (y.releaseWhile (!isOpen ·)).depth = y.depth :=
    depth_releaseWhile (fun t ht => by simpa using ht) y
  cases hs : (y.releaseWhile (!isOpen ·)).stack with
  | nil =>
    rw [close_nil hs] at h
    cases h
    refine ⟨rfl, ?_⟩
    rw [← hd, depth, hs]
    rfl
  | cons t rest =>
    rw [close_cons hs] at h
    cases h

theorem finish_eq (y : Yard) :
    y.finish = if y.depth = 0 then .ok (y.output.reverse ++ y.stack) else .error .missingClose := by
  have hopen : y.stack.any isOpen = true ↔ ¬ y.depth = 0 := by
    rw [depth, List.countP_eq_zero, List.any_eq_true]
    simp
  unfold finish
  by_cases h : y.depth = 0
  · rw [if_pos h, if_neg (fun ho => hopen.mp ho h)]
  · rw [if_neg h, if_pos (hopen.mpr h)]

end Yard

open Yard

/-- A run that is refused on the way has met a closing parenthesis with none open. -/
theorem foldlM_step_error {ts : List Token} (known : ∀ t ∈ ts, t.isKnown = true) :
    ∀ {y : Yard} {e : Error}, ts.foldlM step y = .error e →
      e = .unexpectedClose ∧ depthAfter? y.depth ts = none := by
  induction ts with
  | nil =>
    intro y e h
    cases h
  | cons t ts ih =>
    intro y e h
    have hknown := known t List.mem_cons_self
    rw [List.foldlM_cons] at h
    rcases bind_eq_error.mp h with h | ⟨y₁, h₁, h₂⟩
    · rcases Token.known_cases hknown with ⟨l, rfl⟩ | ⟨op, rfl⟩ | rfl | rfl
      · cases h
      · rw [Operation.symbol, step_precedence op.precedence_lexeme] at h
        cases h
      · cases h
      · obtain ⟨he, hd⟩ := close_error h
        rw [hd, depthAfter_closing_zero]
        exact ⟨he, rfl⟩
    · obtain ⟨he, hnone⟩ := ih (fun t ht => known t (List.mem_cons_of_mem _ ht)) h₂
      refine ⟨he, ?_⟩
      -- the step that succeeded moved the depth as the counting does
      have hstep : depthAfter? y.depth [t] = some y₁.depth :=
        depthAfter_foldlM (by simpa using hknown) (by rw [List.foldlM_cons, h₁]; rfl)
      rw [depthAfter_eq_none] at hnone ⊢
      obtain ⟨us, hus, hlt⟩ := hnone
      have hcount := count_of_depthAfter hstep
      refine ⟨t :: us, List.cons_prefix_cons.mpr ⟨rfl, hus⟩, ?_⟩
      have hsplit (a : Token) : ([t] ++ us).count a = [t].count a + us.count a :=
        List.count_append
      rw [← List.singleton_append, hsplit, hsplit]
      omega

/-- **The three ends of the ordering.** -/
theorem toPostfix_outcome {ts : List Token} (known : ∀ t ∈ ts, t.isKnown = true) :
    (toPostfix ts = .error .unexpectedClose ∧ Overclosed ts) ∨
    (toPostfix ts = .error .missingClose ∧ ¬ Overclosed ts ∧ ¬ Balanced ts) ∨
    ((∃ ps, toPostfix ts = .ok ps) ∧ Balanced ts) := by
  rw [overclosed_iff]
  unfold Balanced toPostfix
  cases hrun : ts.foldlM step Yard.empty with
  | error e =>
    obtain ⟨rfl, hnone⟩ := foldlM_step_error known hrun
    exact .inl ⟨rfl, hnone⟩
  | ok y =>
    have hd : depthAfter? 0 ts = some y.depth := depthAfter_foldlM known hrun
    rw [ok_bind, finish_eq, hd]
    by_cases h0 : y.depth = 0
    · rw [if_pos h0, h0]
      exact .inr (.inr ⟨⟨_, rfl⟩, rfl⟩)
    · rw [if_neg h0]
      exact .inr (.inl ⟨rfl, nofun, fun h => h0 (Option.some.inj h)⟩)

/-! ## what is kept -/

section
variable {level : Level} {ts ps : List Token}

/-- The postfix order is an order of the tokens that are no parentheses. -/
theorem Reads.perm (h : Reads level ts ps) : ps.Perm (ts.filter (!isParenthesis ·)) := by
  induction h with
  | nil => exact .nil
  | number lexeme _ ih =>
    rw [List.filter_append]
    exact ih.append_right _
  | @group ts ps us qs _ _ iht ihu =>
    have e : (ts ++ opening :: (us ++ [closing])).filter (!isParenthesis ·)
        = ts.filter (!isParenthesis ·) ++ us.filter (!isParenthesis ·) := by
      simp [List.filter_append, isParenthesis]
    rw [e]
    exact iht.append ihu
  | tighter _ ih => exact ih
  | @node op ls ps rs qs _ _ ihl ihr =>
    have e : (ls ++ op.symbol :: rs).filter (!isParenthesis ·)
        = ls.filter (!isParenthesis ·) ++ op.symbol :: rs.filter (!isParenthesis ·) := by
      rw [List.filter_append, List.filter_cons_of_pos (by cases op <;> decide)]
    rw [e, List.append_assoc]
    exact ihl.append ((List.perm_append_singleton _ _).trans (ihr.cons _))

/-- The numerals stay in order. -/
theorem Reads.numbers (h : Reads level ts ps) :
    ps.filter Token.isNumber = ts.filter Token.isNumber := by
  induction h with
  | nil => rfl
  | number lexeme _ ih => rw [List.filter_append, List.filter_append, ih]
  | group _ _ iht ihu =>
    rw [List.filter_append, List.filter_append, iht, ihu,
      List.filter_cons_of_neg (by decide), List.filter_append]
    exact congrArg _ (List.append_nil _).symm
  | tighter _ ih => exact ih
  | node op _ _ ihl ihr =>
    have hop : ¬ op.symbol.isNumber = true := Bool.false_ne_true
    rw [List.filter_append, List.filter_append, List.filter_append, ihl, ihr,
      List.filter_cons_of_neg hop, List.filter_cons_of_neg hop]
    exact List.append_nil _

end

/-! ## any tokens -/

theorem isPostfix_of_precedence {lexeme : List Char} {p : Nat}
    (h : precedence? lexeme = some p) : (Token.symbol lexeme).isPostfix := by
  unfold precedence? at h
  split at h
  · exact .inr ⟨.add, rfl⟩
  · exact .inr ⟨.sub, rfl⟩
  · exact .inr ⟨.mul, rfl⟩
  · exact .inr ⟨.div, rfl⟩
  · cases h

namespace Yard

/-- Numerals and operations are written, and nothing else waits but opening parentheses. -/
structure Plain (y : Yard) : Prop where
  output : ∀ t ∈ y.output, t.isPostfix
  stack : ∀ t ∈ y.stack, isOpen t = false → t.isPostfix

theorem plain_empty : empty.Plain := ⟨nofun, nofun⟩

theorem Plain.push {y : Yard} (h : y.Plain) {t : Token} (ht : isOpen t = false → t.isPostfix) :
    Plain ⟨y.output, t :: y.stack⟩ :=
  ⟨h.output, List.forall_mem_cons.mpr ⟨ht, h.stack⟩⟩

theorem Plain.releaseWhile {y : Yard} (h : y.Plain) {go : Token → Bool}
    (hgo : ∀ t, go t = true → isOpen t = false) : (y.releaseWhile go).Plain := by
  constructor
  · intro t ht
    rcases List.mem_append.mp ht with ht | ht
    · have ht' : t ∈ y.stack.takeWhile go := List.mem_reverse.mp ht
      have hgot : go t = true := List.all_eq_true.mp List.all_takeWhile t ht'
      exact h.stack t ((List.takeWhile_prefix go).subset ht') (hgo t hgot)
    · exact h.output t ht
  · exact fun t ht => h.stack t ((List.dropWhile_suffix go).subset ht)

theorem Plain.close {y y' : Yard} (h : y.Plain) (hclose : y.close = .ok y') : y'.Plain := by
  have hr : (y.releaseWhile (!isOpen ·)).Plain := h.releaseWhile (fun t ht => by simpa using ht)
  cases hs : (y.releaseWhile (!isOpen ·)).stack with
  | nil =>
    rw [close_nil hs] at hclose
    cases hclose
  | cons t rest =>
    rw [close_cons hs] at hclose
    cases hclose
    exact ⟨hr.output, fun u hu => hr.stack u (by rw [hs]; exact List.mem_cons_of_mem _ hu)⟩

theorem Plain.step {y y' : Yard} (h : y.Plain) {t : Token} (hstep : y.step t = .ok y') :
    y'.Plain := by
  cases t with
  | number lexeme =>
    cases hstep
    exact ⟨List.forall_mem_cons.mpr ⟨.inl ⟨lexeme, rfl⟩, h.output⟩, h.stack⟩
  | symbol lexeme =>
    cases hp : precedence? lexeme with
    | some p =>
      rw [step_precedence hp] at hstep
      cases hstep
      exact (h.releaseWhile (fun t => isOpen_of_yields)).push
        (fun _ => isPostfix_of_precedence hp)
    | none =>
      simp only [Yard.step, hp] at hstep
      split at hstep
      · rename_i ho
        cases hstep
        exact h.push (fun hn => absurd ((show isOpen (.symbol lexeme) = true from ho).symm.trans hn)
          Bool.noConfusion)
      · exact h.close hstep

end Yard

/-- **Only numerals and operations are written**, whatever the tokens are. -/
theorem isPostfix_of_toPostfix {ts ps : List Token} (h : toPostfix ts = .ok ps) :
    ∀ p ∈ ps, p.isPostfix := by
  obtain ⟨y, hrun, hfinish⟩ := bind_eq_ok.mp h
  have hy : y.Plain :=
    foldlM_preserves (fun _ hs _ _ _ hstep => hs.step hstep) _ plain_empty y hrun
  rw [finish_eq] at hfinish
  split at hfinish
  · rename_i hd
    cases hfinish
    have hclosed : ∀ t ∈ y.stack, isOpen t = false := by
      simpa [depth, List.countP_eq_zero] using hd
    intro p hp
    rcases List.mem_append.mp hp with hp | hp
    · exact hy.output p (List.mem_reverse.mp hp)
    · exact hy.stack p hp (hclosed p hp)
  · cases hfinish

/-- The order that a text is evaluated in is an order of its tokens. -/
theorem ordered_of_stages {text : List Char} {ps : List Token}
    (h : (stages text).ordered? = some ps) :
    ∃ ts, tokenize text = .ok ts ∧ toPostfix ts = .ok ps := by
  unfold stages at h
  split at h
  · cases h
  · rename_i ts hscan
    split at h
    · cases h
    · rename_i qs horder
      cases h
      exact ⟨ts, hscan, horder⟩

/-! ## the ordering as a whole -/

/-- What divides is the division. -/
theorem Operation.ofLexeme_eq_div {lexeme : List Char} (h : (Token.symbol lexeme).isPostfix) :
    ofLexeme lexeme = .div ↔ lexeme = ['/'] := by
  rcases h with ⟨_, h⟩ | ⟨op, h⟩
  · cases h
  · obtain rfl : lexeme = op.lexeme := Token.symbol.inj h
    cases op <;> decide

/-- The message tells which count is wrong. -/
theorem refused_by_count {ts : List Token} (known : ∀ t ∈ ts, t.isKnown = true) :
    ((∃ e, toPostfix ts = .error e) ↔ ¬ Balanced ts) ∧
    (∀ e, toPostfix ts = .error e → e.kind = .mismatchedParentheses) ∧
    ((∃ e, toPostfix ts = .error e ∧ e.message = "Mismatched parentheses: unexpected ')'.") ↔
      Overclosed ts) ∧
    ((∃ e, toPostfix ts = .error e ∧ e.message = "Mismatched parentheses: missing ')'.") ↔
      ¬ Balanced ts ∧ ¬ Overclosed ts) := by
  rcases toPostfix_outcome known with ⟨h, ho⟩ | ⟨h, ho, hb⟩ | ⟨⟨ps, h⟩, hb⟩
  · have hb : ¬ Balanced ts := fun hb => (balanced_iff.mp hb).1 ho
    simp only [h, Except.error.injEq, exists_eq', exists_eq_left', forall_eq']
    exact ⟨iff_of_true trivial hb, rfl, iff_of_true rfl ho,
      iff_of_false (by decide) fun hn => hn.2 ho⟩
  · simp only [h, Except.error.injEq, exists_eq', exists_eq_left', forall_eq']
    exact ⟨iff_of_true trivial hb, rfl, iff_of_false (by decide) ho, iff_of_true rfl ⟨hb, ho⟩⟩
  · have ho : ¬ Overclosed ts := (balanced_iff.mp hb).1
    simp [h, ho, hb]

/-- **What the ordering refuses and what it keeps.**  On numbers and the six symbols it fails just
when the parentheses do not balance, with the message for a closing one just when some beginning
closes too much; otherwise it rearranges the tokens that are no parentheses, and leaves the numbers
in order.  From any tokens it writes only the four operations, so in the order of a text what
divides is `/`. -/
theorem ordering_settled (ts : List Token) :
    ((∀ t ∈ ts, t.isKnown = true) →
      ((∃ e, toPostfix ts = .error e) ↔ ¬ Balanced ts) ∧
      (∀ e, toPostfix ts = .error e → e.kind = .mismatchedParentheses) ∧
      ((∃ e, toPostfix ts = .error e ∧ e.message = "Mismatched parentheses: unexpected ')'.") ↔
        Overclosed ts) ∧
      ((∃ e, toPostfix ts = .error e ∧ e.message = "Mismatched parentheses: missing ')'.") ↔
        ¬ Balanced ts ∧ ¬ Overclosed ts) ∧
      (∀ ps, toPostfix ts = .ok ps → ps.Perm (ts.filter (!isParenthesis ·)) ∧
        ps.filter Token.isNumber = ts.filter Token.isNumber)) ∧
    (∀ ps, toPostfix ts = .ok ps → ∀ lexeme, .symbol lexeme ∈ ps →
      ∃ op : Operation, lexeme = op.lexeme) ∧
    (∀ text ps, (stages text).ordered? = some ps → ∀ lexeme, .symbol lexeme ∈ ps →
      (Operation.ofLexeme lexeme = .div ↔ lexeme = ['/'])) := by
  refine ⟨fun known => ?_, ?_, ?_⟩
  · obtain ⟨hfails, hkind, hclose, hopen⟩ := refused_by_count known
    refine ⟨hfails, hkind, hclose, hopen, fun ps h => ?_⟩
    have hreads := reads_of_toPostfix known h
    exact ⟨hreads.perm, hreads.numbers⟩
  · intro ps h lexeme hl
    rcases isPostfix_of_toPostfix h _ hl with ⟨_, e⟩ | ⟨op, e⟩
    · cases e
    · exact ⟨op, Token.symbol.inj e⟩
  · intro text ps h lexeme hl
    obtain ⟨us, -, horder⟩ := ordered_of_stages h
    exact Operation.ofLexeme_eq_div (isPostfix_of_toPostfix horder _ hl)

/-- `2 ) + ( 1` closes a parenthesis that is not open, though it opens as many as it closes. -/
theorem ordering_settled_reversed :
    let tokens : List Token := [.number ['2'], closing, .symbol ['+'], opening, .number ['1']]
    (∀ t ∈ tokens, t.isKnown = true) ∧ Overclosed tokens ∧
      ∃ e, toPostfix tokens = .error e ∧
        e.message = "Mismatched parentheses: unexpected ')'." := by
  intro tokens
  have known : ∀ t ∈ tokens, t.isKnown = true := by decide
  have ho : Overclosed tokens := ⟨[.number ['2'], closing], by decide, by decide⟩
  exact ⟨known, ho, ((ordering_settled tokens).1 known).2.2.1.mpr ho⟩

/-- A symbol from elsewhere closes as well, and is not written. -/
example : toPostfix [.number ['2'], opening, .symbol ['^'], .number ['1']]
    = .ok [.number ['2'], .number ['1']] := rfl

end AlgebraDesk.Calculator

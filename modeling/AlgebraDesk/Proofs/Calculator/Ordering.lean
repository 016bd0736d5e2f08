import AlgebraDesk.Proofs.Calculator.Grammar
import AlgebraDesk.Proofs.Lists
import AlgebraDesk.Proofs.Result

/-!
# What the ordering does

The ordering reads a list of tokens by the grammar of rows: it succeeds just on the lists whose
parentheses balance, and gives the postfix order of the reading.  While a part of the list is read,
what waits on the stack is the end of the postfix order of that part, and it binds at least as
tightly as the part does (`Reads.foldlM_step`).

* `toPostfix_reads`        the result on a list that reads as a sum;
* `Reads.unique`           a list has one postfix order;
* `balanced_of_toPostfix`  the parentheses of a list that is ordered balance;
* `Balanced.reads`         and such a list reads as a sum.
-/

namespace AlgebraDesk.Calculator

/-! ## precedence on the stack -/

namespace Yard

theorem yields_symbol (p : Nat) (op : Operation) :
    yields p op.symbol = decide (p ≤ op.level.rank) := by
  simp only [yields, Operation.symbol, Token.lexeme_symbol, Operation.precedence_lexeme]

theorem yields_opening (p : Nat) : yields p opening = false := rfl

/-- A symbol that has precedence is not an opening parenthesis. -/
theorem isOpen_of_yields {p : Nat} {t : Token} (h : yields p t = true) : isOpen t = false := by
  cases ho : isOpen t with
  | false => rfl
  | true =>
    have e : t.lexeme = ['('] := by simpa [isOpen] using ho
    rw [yields, e] at h
    exact absurd h Bool.false_ne_true

theorem yields_mono {p q : Nat} (hpq : p ≤ q) {t : Token} (h : yields q t = true) :
    yields p t = true := by
  unfold yields at h ⊢
  cases hp : precedence? t.lexeme with
  | none => rw [hp] at h; exact absurd h Bool.false_ne_true
  | some r =>
    rw [hp] at h
    exact decide_eq_true (Nat.le_trans hpq (of_decide_eq_true h))

/-- No symbol binds as tightly as an operand. -/
theorem yields_operand (t : Token) : yields Level.operand.rank t = false := by
  unfold yields precedence?
  split
  · rename_i q hq
    split at hq <;> simp at hq <;> subst hq <;> rfl
  · rfl

/-- An operand leaves nothing waiting. -/
theorem nil_of_yields_operand {waiting : List Token}
    (hw : ∀ t ∈ waiting, yields Level.operand.rank t = true) : waiting = [] := by
  cases waiting with
  | nil => rfl
  | cons t _ =>
    have ht := hw t List.mem_cons_self
    rw [yields_operand] at ht
    exact absurd ht Bool.false_ne_true

/-- Nothing on the stack goes out for a symbol of precedence `p`. -/
def Holds (p : Nat) (stack : List Token) : Prop := ∀ t ∈ stack.head?, yields p t = false

theorem Holds.mono {p q : Nat} (hpq : p ≤ q) {stack : List Token} (h : Holds p stack) :
    Holds q stack := by
  intro t ht
  cases hq : yields q t with
  | false => rfl
  | true => exact absurd ((h t ht).symm.trans (yields_mono hpq hq)) Bool.false_ne_true

theorem holds_opening (p : Nat) (stack : List Token) : Holds p (opening :: stack) := by
  intro t ht
  obtain rfl : opening = t := by simpa using ht
  exact yields_opening p

theorem holds_symbol (op : Operation) (stack : List Token) :
    Holds op.level.tighter.rank (op.symbol :: stack) := by
  intro t ht
  obtain rfl : op.symbol = t := by simpa using ht
  rw [yields_symbol]
  exact decide_eq_false (Nat.not_le.mpr op.rank_lt_tighter)

/-! ## one step -/

theorem releaseWhile_append {go : Token → Bool} {waiting : List Token} (out stack : List Token)
    (hw : ∀ t ∈ waiting, go t = true) (hs : ∀ t ∈ stack.head?, go t = false) :
    releaseWhile go ⟨out, waiting ++ stack⟩ = ⟨waiting.reverse ++ out, stack⟩ := by
  unfold releaseWhile
  rw [takeWhile_append_stop hw hs, dropWhile_append_stop hw hs]

/-- A symbol with precedence goes on the stack when the others have gone out. -/
theorem step_precedence {lexeme : List Char} {p : Nat} (h : precedence? lexeme = some p)
    (y : Yard) : step y (.symbol lexeme)
      = .ok ⟨(y.releaseWhile (yields p)).output,
          .symbol lexeme :: (y.releaseWhile (yields p)).stack⟩ := by
  simp only [step, h]

theorem step_symbol (op : Operation) {waiting : List Token} (out stack : List Token)
    (hw : ∀ t ∈ waiting, yields op.level.rank t = true) (hs : Holds op.level.rank stack) :
    step ⟨out, waiting ++ stack⟩ op.symbol
      = .ok ⟨waiting.reverse ++ out, op.symbol :: stack⟩ := by
  rw [Operation.symbol, step_precedence op.precedence_lexeme, releaseWhile_append out stack hw hs]

theorem close_nil {y : Yard} (h : (y.releaseWhile (!isOpen ·)).stack = []) :
    y.close = .error .unexpectedClose := by
  simp only [close, h]

theorem close_cons {y : Yard} {t : Token} {rest : List Token}
    (h : (y.releaseWhile (!isOpen ·)).stack = t :: rest) :
    y.close = .ok ⟨(y.releaseWhile (!isOpen ·)).output, rest⟩ := by
  simp only [close, h]

theorem step_closing {waiting : List Token} (out stack : List Token)
    (hw : ∀ t ∈ waiting, isOpen t = false) :
    step ⟨out, waiting ++ opening :: stack⟩ closing = .ok ⟨waiting.reverse ++ out, stack⟩ := by
  show close _ = _
  unfold close
  rw [releaseWhile_append out (opening :: stack) (fun t ht => by rw [hw t ht]; rfl)
    (fun t ht => by obtain rfl : opening = t := by simpa using ht
                    rfl)]

end Yard

open Yard

/-! ## a whole part -/

/-- **The ordering follows the reading.**  From a stack that holds back what the part could
release, reading the part writes the beginning of its postfix order, and the end waits on the
stack. -/
theorem Reads.foldlM_step {level : Level} {ts ps : List Token} (h : Reads level ts ps) :
    ∀ (out stack : List Token), Holds level.rank stack →
      ∃ out' waiting, ts.foldlM step ⟨out, stack⟩ = .ok ⟨out', waiting ++ stack⟩ ∧
        out'.reverse ++ waiting = out.reverse ++ ps ∧
        ∀ t ∈ waiting, yields level.rank t = true := by
  induction h with
  | nil =>
    intro out stack _
    exact ⟨out, [], rfl, rfl, by simp⟩
  | number lexeme _ ih =>
    intro out stack hs
    obtain ⟨out', waiting, hrun, hout, hw⟩ := ih out stack hs
    obtain rfl := nil_of_yields_operand hw
    refine ⟨.number lexeme :: out', [], ?_, ?_, by simp⟩
    · rw [List.foldlM_append, hrun]
      rfl
    · rw [List.append_nil] at hout
      rw [List.reverse_cons, hout, List.append_nil, List.append_assoc]
  | @group ts ps us qs _ _ iht ihu =>
    intro out stack hs
    obtain ⟨out₁, waiting, hrun₁, hout₁, hw⟩ := iht out stack hs
    obtain rfl := nil_of_yields_operand hw
    obtain ⟨out₂, waiting, hrun₂, hout₂, hw⟩ :=
      ihu out₁ (opening :: stack) (holds_opening _ stack)
    refine ⟨waiting.reverse ++ out₂, [], ?_, ?_, by simp⟩
    · rw [List.foldlM_append, hrun₁]
      show (us ++ [closing]).foldlM step ⟨out₁, opening :: stack⟩ = _
      rw [List.foldlM_append, hrun₂]
      show (step ⟨out₂, waiting ++ opening :: stack⟩ closing >>= _) = _
      rw [step_closing out₂ stack (fun t ht => isOpen_of_yields (hw t ht))]
      rfl
    · rw [List.append_nil] at hout₁
      rw [List.reverse_append, List.reverse_reverse, hout₂, hout₁, List.append_nil,
        List.append_assoc]
  | @tighter level _ _ _ ih =>
    intro out stack hs
    obtain ⟨out', waiting, hrun, hout, hw⟩ := ih out stack (hs.mono level.rank_le_tighter)
    exact ⟨out', waiting, hrun, hout, fun t ht => yields_mono level.rank_le_tighter (hw t ht)⟩
  | @node op ls ps rs qs _ _ ihl ihr =>
    intro out stack hs
    obtain ⟨out₁, wl, hrun₁, hout₁, hwl⟩ := ihl out stack hs
    obtain ⟨out₂, wr, hrun₂, hout₂, hwr⟩ :=
      ihr (wl.reverse ++ out₁) (op.symbol :: stack) (holds_symbol op stack)
    refine ⟨out₂, wr ++ [op.symbol], ?_, ?_, ?_⟩
    · rw [List.foldlM_append, hrun₁]
      show (step ⟨out₁, wl ++ stack⟩ op.symbol >>= fun y => rs.foldlM step y) = _
      rw [step_symbol op out₁ stack hwl hs]
      show rs.foldlM step ⟨wl.reverse ++ out₁, op.symbol :: stack⟩ = _
      rw [hrun₂, List.append_assoc]
      rfl
    · rw [← List.append_assoc, hout₂, List.reverse_append, List.reverse_reverse, hout₁]
      simp only [List.append_assoc]
    · intro t ht
      rcases List.mem_append.mp ht with h | h
      · exact yields_mono (Nat.le_of_lt op.rank_lt_tighter) (hwr t h)
      · rw [List.mem_singleton.mp h, yields_symbol]
        exact decide_eq_true (Nat.le_refl _)

theorem toPostfix_reads {ts ps : List Token} (h : Reads .sum ts ps) : toPostfix ts = .ok ps := by
  obtain ⟨out, waiting, hrun, hout, hw⟩ := h.foldlM_step [] [] (fun t ht => by simp at ht)
  rw [List.append_nil] at hrun
  unfold toPostfix
  show (ts.foldlM step ⟨[], []⟩ >>= finish) = _
  rw [hrun]
  show finish ⟨out, waiting⟩ = _
  have hopen : waiting.any isOpen = false := by
    rw [List.any_eq_false]
    intro t ht
    rw [isOpen_of_yields (hw t ht)]
    exact Bool.false_ne_true
  unfold finish
  rw [hopen]
  show Except.ok (out.reverse ++ waiting) = _
  rw [hout]
  rfl

/-- A list has one postfix order. -/
theorem Reads.unique {ts ps qs : List Token} (h : Reads .sum ts ps) (h' : Reads .sum ts qs) :
    ps = qs := by
  have e := (toPostfix_reads h).symm.trans (toPostfix_reads h')
  exact Except.ok.inj e

/-! ## open parentheses on the stack -/

namespace Yard

/-- how many parentheses are open -/
def depth (y : Yard) : Nat := y.stack.countP isOpen

theorem countP_of_closed {waiting : List Token} (h : ∀ t ∈ waiting, isOpen t = false) :
    waiting.countP isOpen = 0 :=
  List.countP_eq_zero.mpr (fun t ht => by rw [h t ht]; exact Bool.false_ne_true)

/-- Symbols that are no opening parentheses may go out: no fewer parentheses are open. -/
theorem depth_releaseWhile {go : Token → Bool} (hgo : ∀ t, go t = true → isOpen t = false)
    (y : Yard) : (y.releaseWhile go).depth = y.depth := by
  show (y.stack.dropWhile go).countP isOpen = y.stack.countP isOpen
  have e : (y.stack.takeWhile go).countP isOpen = 0 :=
    countP_of_closed (fun t ht => hgo t (List.all_eq_true.mp List.all_takeWhile t ht))
  rw [← List.takeWhile_append_dropWhile (p := go) (l := y.stack), List.countP_append,
    List.takeWhile_append_dropWhile, e, Nat.zero_add]

/-- A closing parenthesis closes the innermost one that is open. -/
theorem depth_close {y y' : Yard} (h : y.close = .ok y') : y.depth = y'.depth + 1 := by
  have hd : (y.releaseWhile (!isOpen ·)).depth = y.depth :=
    depth_releaseWhile (fun t ht => by simpa using ht) y
  have hhead : ∀ t ∈ (y.releaseWhile (!isOpen ·)).stack.head?, isOpen t = true :=
    fun t ht => by simpa using head_dropWhile (!isOpen ·) y.stack t ht
  rw [← hd]
  cases hs : (y.releaseWhile (!isOpen ·)).stack with
  | nil =>
    rw [close_nil hs] at h
    cases h
  | cons o rest =>
    rw [close_cons hs] at h
    cases h
    show (y.releaseWhile (!isOpen ·)).stack.countP isOpen = rest.countP isOpen + 1
    rw [hs, List.countP_cons, hhead o (by rw [hs]; rfl)]
    rfl

end Yard

/-- The stack holds as many opening parentheses as are open. -/
theorem depthAfter_foldlM {ts : List Token} (known : ∀ t ∈ ts, t.isKnown = true) :
    ∀ {y y' : Yard}, ts.foldlM step y = .ok y' → depthAfter? y.depth ts = some y'.depth := by
  induction ts with
  | nil =>
    intro y y' h
    cases h
    rfl
  | cons t ts ih =>
    intro y y' h
    rw [List.foldlM_cons] at h
    obtain ⟨y₁, h₁, h₂⟩ := bind_eq_ok.mp h
    have ih' := ih (fun t ht => known t (List.mem_cons_of_mem _ ht)) h₂
    rcases Token.known_cases (known t List.mem_cons_self) with ⟨l, rfl⟩ | ⟨op, rfl⟩ | rfl | rfl
    · cases h₁
      rw [depthAfter_number]
      exact ih'
    · have hd : y₁.depth = y.depth := by
        rw [Operation.symbol, step_precedence op.precedence_lexeme] at h₁
        cases h₁
        show (op.symbol :: (y.releaseWhile (yields op.level.rank)).stack).countP isOpen = _
        rw [List.countP_cons_of_neg (by cases op <;> decide)]
        exact depth_releaseWhile (fun t => isOpen_of_yields) y
      rw [depthAfter_symbol, ← hd]
      exact ih'
    · cases h₁
      have hd : (Yard.mk y.output (opening :: y.stack)).depth = y.depth + 1 :=
        List.countP_cons_of_pos rfl
      rw [depthAfter_opening, ← hd]
      exact ih'
    · have hd : y.depth = y₁.depth + 1 := depth_close h₁
      rw [hd, depthAfter_closing]
      exact ih'

theorem balanced_of_toPostfix {ts ps : List Token} (known : ∀ t ∈ ts, t.isKnown = true)
    (h : toPostfix ts = .ok ps) : Balanced ts := by
  obtain ⟨y, hrun, hfinish⟩ := bind_eq_ok.mp h
  have hd := depthAfter_foldlM known hrun
  have h0 : y.depth = 0 := by
    unfold finish at hfinish
    split at hfinish
    · cases hfinish
    · rename_i hopen
      exact countP_of_closed (by simpa using hopen)
  rwa [h0] at hd

/-! ## balanced lists have a reading -/

/-- A row may be followed by what it can take in as its last item. -/
theorem Reads.append_item {is : List Token}
    (item : ∀ {ts ps}, Reads .operand ts ps → ∃ qs, Reads .operand (ts ++ is) qs)
    {level : Level} {ts ps : List Token} (h : Reads level ts ps) :
    ∃ qs, Reads level (ts ++ is) qs := by
  induction h with
  | nil => exact item .nil
  | number lexeme h _ => exact item (.number lexeme h)
  | group h hu _ _ => exact item (.group h hu)
  | tighter _ ih =>
    obtain ⟨qs, hq⟩ := ih
    exact ⟨qs, .tighter hq⟩
  | @node op ls ps rs _ hl _ _ ihr =>
    obtain ⟨qs, hq⟩ := ihr
    have h := Reads.node op hl hq
    exact ⟨ps ++ qs ++ [op.symbol], by rwa [List.append_assoc]⟩

/-- An operation is joined at its level, with an operand that is missing for now. -/
theorem Reads.append_symbol (op : Operation) {level : Level} {ts ps : List Token}
    (h : Reads level ts ps) :
    level.rank ≤ op.level.rank → ∃ qs, Reads level (ts ++ [op.symbol]) qs := by
  have missing : Reads op.level.tighter [] [] := by
    cases op
    · exact .tighter .nil
    · exact .tighter .nil
    · exact .nil
    · exact .nil
  have operand_lt : ¬ Level.operand.rank ≤ op.level.rank := by cases op <;> decide
  induction h with
  | nil => exact fun hr => absurd hr operand_lt
  | number => exact fun hr => absurd hr operand_lt
  | group => exact fun hr => absurd hr operand_lt
  | @tighter level ts ps h ih =>
    intro hr
    by_cases e : level = op.level
    · subst e
      exact ⟨_, .node op (.tighter h) missing⟩
    · have hr' : level.tighter.rank ≤ op.level.rank := by
        revert hr e
        cases level <;> cases op <;> decide
      obtain ⟨qs, hq⟩ := ih hr'
      exact ⟨qs, .tighter hq⟩
  | @node op' ls ps rs qs hl hr _ ihr =>
    intro hrank
    by_cases e : op'.level = op.level
    · have h := Reads.node op' hl hr
      rw [e] at h ⊢
      exact ⟨_, .node op h missing⟩
    · have hr' : op'.level.tighter.rank ≤ op.level.rank := by
        revert hrank e
        cases op' <;> cases op <;> decide
      obtain ⟨qs', hq⟩ := ihr hr'
      have h := Reads.node op' hl hq
      exact ⟨ps ++ qs' ++ [op'.symbol], by rwa [List.append_assoc]⟩

/-- What is read when some parentheses are open: inside the innermost pair, and, from the inside
out, before each of them. -/
def pending (outer : List (List Token)) (inner : List Token) : List Token :=
  outer.foldl (fun ts before => before ++ opening :: ts) inner

theorem pending_append (outer : List (List Token)) (inner ts : List Token) :
    pending outer inner ++ ts = pending outer (inner ++ ts) := by
  induction outer generalizing inner with
  | nil => rfl
  | cons before outer ih =>
    show pending outer (before ++ opening :: inner) ++ ts = _
    rw [ih, List.append_assoc]
    rfl

/-- Every part between parentheses has a reading, so the whole has one when all are closed. -/
theorem reads_pending {ts : List Token} (known : ∀ t ∈ ts, t.isKnown = true) :
    ∀ (outer : List (List Token)) (inner : List Token), (∃ ps, Reads .sum inner ps) →
      (∀ before ∈ outer, ∃ ps, Reads .sum before ps) →
      depthAfter? outer.length ts = some 0 → ∃ ps, Reads .sum (pending outer inner ++ ts) ps := by
  induction ts with
  | nil =>
    intro outer inner hinner _ hd
    obtain rfl : outer = [] := List.eq_nil_of_length_eq_zero (Option.some.inj hd)
    simpa [pending] using hinner
  | cons t ts ih =>
    intro outer inner ⟨ps, hinner⟩ houter hd
    have ih' := ih (fun t ht => known t (List.mem_cons_of_mem _ ht))
    have split : pending outer inner ++ t :: ts = pending outer (inner ++ [t]) ++ ts := by
      rw [← pending_append, List.append_assoc]
      rfl
    rcases Token.known_cases (known t List.mem_cons_self) with ⟨l, rfl⟩ | ⟨op, rfl⟩ | rfl | rfl
    · rw [split]
      rw [depthAfter_number] at hd
      exact ih' outer _ (hinner.append_item (fun h => ⟨_, .number l h⟩)) houter hd
    · rw [split]
      rw [depthAfter_symbol] at hd
      exact ih' outer _ (hinner.append_symbol op (by cases op <;> decide)) houter hd
    · have hempty : ∃ ps, Reads .sum [] ps := ⟨[], .tighter (.tighter .nil)⟩
      have e : pending outer inner ++ opening :: ts = pending (inner :: outer) [] ++ ts := split
      rw [e]
      rw [depthAfter_opening] at hd
      exact ih' (inner :: outer) [] hempty
        (fun before hb => by
          rcases List.mem_cons.mp hb with rfl | hb
          · exact ⟨ps, hinner⟩
          · exact houter before hb) hd
    · cases outer with
      | nil => exact absurd hd nofun
      | cons before outer =>
        obtain ⟨qs, hbefore⟩ := houter before List.mem_cons_self
        have hgroup : ∃ qs, Reads .sum (before ++ opening :: (inner ++ [closing])) qs :=
          hbefore.append_item (fun h => ⟨_, .group h hinner⟩)
        rw [split]
        rw [List.length_cons, depthAfter_closing] at hd
        exact ih' outer _ hgroup (fun b hb => houter b (List.mem_cons_of_mem _ hb)) hd

theorem Balanced.reads {ts : List Token} (known : ∀ t ∈ ts, t.isKnown = true)
    (h : Balanced ts) : ∃ ps, Reads .sum ts ps :=
  reads_pending known [] [] ⟨[], .tighter (.tighter .nil)⟩ nofun h

/-- What the ordering writes is the postfix order of the list. -/
theorem reads_of_toPostfix {ts ps : List Token} (known : ∀ t ∈ ts, t.isKnown = true)
    (h : toPostfix ts = .ok ps) : Reads .sum ts ps := by
  obtain ⟨qs, hq⟩ := (balanced_of_toPostfix known h).reads known
  obtain rfl : qs = ps := Except.ok.inj ((toPostfix_reads hq).symm.trans h)
  exact hq

end AlgebraDesk.Calculator

import AlgebraDesk.Proofs.Calculator.Checked
import AlgebraDesk.Proofs.Calculator.Evaluation
import AlgebraDesk.Proofs.Calculator.Neighbours
import AlgebraDesk.Proofs.Calculator.Scanning

/-!
# No fault is reached

Stage by stage the calculator that can fault does what the other one does.  A text is read as a
number only when it has the form of a numeral, and the rest of the guards stand next to what they
guard, but for one: that only operations are applied holds because the ordering writes nothing else
(`Reads.mem`).

* `Checked.tokenize_eq`, `Checked.toPostfix_eq`, `Checked.evalPostfix_eq`   the three stages;
* `finite_or_refused`  every text has a finite value or is refused, by either calculator, and so is
                       every answer.
-/

namespace AlgebraDesk.Calculator

namespace Checked

/-! ## tokens -/

theorem numberToken_eq (lexeme : List Char) :
    numberToken lexeme = (Calculator.numberToken lexeme).mapError .refused := by
  unfold numberToken Calculator.numberToken
  cases hform : isNumeral lexeme with
  | false => rfl
  | true =>
    obtain ⟨x, hx⟩ := exists_numeralValue hform
    have hnumber : number lexeme = .ok x := by
      unfold number
      rw [hx]
    have hfinite : hasFiniteValue lexeme = x.isFinite := by
      unfold hasFiniteValue
      rw [hx]
    rw [hnumber, hfinite, ok_bind]
    cases x.isFinite <;> rfl

theorem scan_eq (before : Option Char) (cs : List Char) :
    scan before cs = (Calculator.scan before cs).mapError .refused := by
  induction before, cs using scan.induct with
  | case1 before =>
    rw [scan, Calculator.scan]
    rfl
  | case2 before c rest run after hsign ih =>
    rw [scan, Calculator.scan, if_pos hsign, if_pos hsign, numberToken_eq, ih, mapError_bind]
    simp only [mapError_bind]
    rfl
  | case3 before c rest hsign hsym ih =>
    rw [scan, Calculator.scan, if_neg hsign, if_neg hsign, if_pos hsym, if_pos hsym, ih,
      mapError_bind]
    rfl
  | case4 before c rest run after hsign hsym ih =>
    rw [scan, Calculator.scan, if_neg hsign, if_neg hsign, if_neg hsym, if_neg hsym,
      numberToken_eq, ih, mapError_bind]
    simp only [mapError_bind]
    rfl

theorem tokenize_eq (text : List Char) :
    tokenize text = (Calculator.tokenize text).mapError .refused := by
  cases h : firstForeign? (Text.removeBlanks text) with
  | none =>
    rw [tokenize_of_none h, ← scan_eq]
    simp only [tokenize, h]
  | some p =>
    rw [tokenize_of_some h, mapError_error]
    simp only [tokenize, h]

/-! ## ordering -/

theorem yields_eq (p : Nat) (t : Token) : yields p t = .ok (Yard.yields p t) := by
  unfold yields Yard.yields precedence
  cases precedence? t.lexeme <;> rfl

theorem releaseWhile_eq {go : Token → Except Failure Bool} (go' : Token → Bool)
    (hgo : ∀ t, go t = .ok (go' t)) (y : Yard) :
    releaseWhile go y = .ok (y.releaseWhile go') := by
  obtain ⟨output, stack⟩ := y
  induction stack generalizing output with
  | nil =>
    rw [releaseWhile]
    rfl
  | cons t stack ih =>
    rw [releaseWhile, if_neg (by simp)]
    show (go t >>= fun b => if b = true then releaseWhile go ⟨t :: output, stack⟩
      else .ok ⟨output, t :: stack⟩) = _
    rw [hgo, ok_bind]
    cases hb : go' t with
    | false => simp [Yard.releaseWhile, hb]
    | true =>
      rw [if_pos rfl, ih]
      simp [Yard.releaseWhile, hb]

theorem close_eq (y : Yard) : close y = y.close.mapError .refused := by
  have hrelease : releaseWhile (fun t => pure !isOpen t) y = .ok (y.releaseWhile (!isOpen ·)) :=
    releaseWhile_eq _ (fun _ => rfl) y
  unfold close
  rw [hrelease, ok_bind]
  cases hs : (y.releaseWhile (!isOpen ·)).stack with
  | nil =>
    rw [Yard.close_nil hs]
    rfl
  | cons t rest =>
    rw [Yard.close_cons hs]
    rfl

theorem step_eq (y : Yard) (t : Token) : step y t = (y.step t).mapError .refused := by
  cases t with
  | number lexeme => rfl
  | symbol lexeme =>
    unfold step Yard.step
    cases hp : precedence? lexeme with
    | some p =>
      simp only [hp, precedence, Option.isSome_some, if_true, ok_bind, releaseWhile_eq _ (yields_eq p)]
      rfl
    | none =>
      simp only [hp, Option.isSome_none, Bool.false_eq_true, if_false, close_eq]
      split <;> rfl

theorem finish_eq (y : Yard) : finish y = y.finish.mapError .refused := by
  obtain ⟨output, stack⟩ := y
  induction stack generalizing output with
  | nil =>
    rw [finish]
    simp [Yard.finish]
    rfl
  | cons t stack ih =>
    rw [finish, if_neg (by simp)]
    show (if isOpen t = true then .error (.refused .missingClose)
      else finish ⟨t :: output, stack⟩) = _
    unfold Yard.finish at ih ⊢
    cases ht : isOpen t with
    | true => simp [ht]
    | false =>
      rw [if_neg Bool.false_ne_true, ih]
      simp [ht]

theorem toPostfix_eq (ts : List Token) :
    toPostfix ts = (Calculator.toPostfix ts).mapError .refused := by
  unfold toPostfix Calculator.toPostfix
  rw [mapError_bind, ← foldlM_mapError]
  simp only [← step_eq, ← finish_eq]

/-! ## evaluation -/

/-- The branch for a division by zero comes before the division. -/
theorem apply_eq (op : Operation) (x y : Float) :
    apply op.lexeme x y
      = if op = .div ∧ y == 0 then .error (.refused .divisionByZero) else .ok (op.raw x y) := by
  cases op with
  | div =>
    show (if y == 0 then .error (.refused .divisionByZero) else divide x y) = _
    unfold divide
    cases y == 0 <;> rfl
  | add | sub | mul => rw [if_neg (by simp)]; rfl

theorem evalStep_eq {p : Token} (plain : p.isPostfix) (stack : List Float) :
    evalStep stack p = Calculator.evalStep stack p := by
  rcases plain with ⟨lexeme, rfl⟩ | ⟨op, rfl⟩
  · show (number lexeme >>= fun x => .ok (x :: stack)) = _
    unfold number
    cases hvalue : numeralValue lexeme <;> simp only [Calculator.evalStep, hvalue] <;> rfl
  · rcases stack with _ | ⟨y, _ | ⟨x, stack⟩⟩
    · rfl
    · rfl
    · rw [evalStep_symbol, Operation.apply_eq]
      show (apply op.lexeme x y >>= fun z => if z.isFinite = true then .ok (z :: stack)
        else .error (.refused .resultTooLarge)) = _
      rw [apply_eq]
      split
      · rfl
      · rw [ok_bind]
        split <;> rfl

theorem evalPostfix_eq {ps : List Token} (plain : ∀ p ∈ ps, p.isPostfix) :
    evalPostfix ps = Calculator.evalPostfix ps := by
  unfold evalPostfix Calculator.evalPostfix
  rw [foldlM_congr (fun stack p hp => evalStep_eq (plain p hp) stack)]
  cases ps.foldlM Calculator.evalStep [] with
  | error e => rfl
  | ok stack =>
    match stack with
    | [] => rfl
    | [_] => rfl
    | _ :: _ :: _ =>
      rw [ok_bind, ok_bind, if_pos (by simp)]

/-- **The calculator that can fault is the other one.** -/
theorem evaluate_eq (text : List Char) : evaluate text = Calculator.evaluate text := by
  rw [evaluate_stages]
  unfold evaluate
  rw [tokenize_eq]
  cases hscan : Calculator.tokenize text with
  | error e => rfl
  | ok ts =>
    show (toPostfix ts >>= evalPostfix)
      = (Calculator.toPostfix ts).mapError .refused >>= Calculator.evalPostfix
    rw [toPostfix_eq]
    cases horder : Calculator.toPostfix ts with
    | error e => rfl
    | ok ps =>
      have hscanned := (tokenize_eq_ok_iff.mp hscan).1
      have hreads := reads_of_toPostfix hscanned.known horder
      exact evalPostfix_eq (fun p hp => (hreads.mem p hp).2)

end Checked

/-! ## finite values -/

/-- One token leaves only finite values on the stack, when its numeral has one. -/
theorem evalStep_finite {p : Token} {stack stack' : List Float}
    (hp : ∀ lexeme, p = .number lexeme → ∃ x, numeralValue lexeme = .ok x ∧ x.isFinite = true)
    (hstack : ∀ x ∈ stack, x.isFinite = true) (h : evalStep stack p = .ok stack') :
    ∀ x ∈ stack', x.isFinite = true := by
  match p, stack, h with
  | .number lexeme, stack, h =>
    obtain ⟨x, hx, hfin⟩ := hp lexeme rfl
    rw [evalStep, hx] at h
    cases h
    exact List.forall_mem_cons.mpr ⟨hfin, hstack⟩
  | .symbol lexeme, y :: x :: stack, h =>
    have hrest : ∀ x ∈ stack, x.isFinite = true := fun z hz =>
      hstack z (List.mem_cons_of_mem _ (List.mem_cons_of_mem _ hz))
    rw [evalStep, Operation.apply_eq] at h
    split at h
    · rename_i z hz
      cases h
      refine List.forall_mem_cons.mpr ⟨?_, hrest⟩
      split at hz
      · cases hz
      · split at hz
        · rename_i hfin
          cases hz
          exact hfin
        · cases hz
    · cases h
  | .symbol _, [], h => cases h
  | .symbol _, [_], h => cases h

theorem evalPostfix_finite {ps : List Token} {x : Float}
    (hps : ∀ lexeme, .number lexeme ∈ ps → ∃ x, numeralValue lexeme = .ok x ∧ x.isFinite = true)
    (h : evalPostfix ps = .ok x) : x.isFinite = true := by
  have hrun := evalPostfix_eq_ok.mp h
  have hall := foldlM_preserves (P := fun stack => ∀ x ∈ stack, x.isFinite = true)
    (fun stack hstack p hp stack' hstep =>
      evalStep_finite (fun lexeme e => hps lexeme (e ▸ hp)) hstack hstep) [] nofun [x] hrun
  exact hall x List.mem_cons_self

/-- **A text has a finite value or is refused.** -/
theorem evaluate_outcome (text : List Char) :
    (∃ x, evaluate text = .ok x ∧ x.isFinite = true) ∨
      ∃ e, evaluate text = .error (.refused e) := by
  rw [evaluate_stages]
  cases hscan : tokenize text with
  | error e => exact .inr ⟨e, rfl⟩
  | ok ts =>
    show (∃ x, (toPostfix ts).mapError .refused >>= evalPostfix = .ok x ∧ _) ∨
      ∃ e, (toPostfix ts).mapError .refused >>= evalPostfix = .error (.refused e)
    cases horder : toPostfix ts with
    | error e => exact .inr ⟨e, rfl⟩
    | ok ps =>
      have hscanned := (tokenize_eq_ok_iff.mp hscan).1
      have hreads := reads_of_toPostfix hscanned.known horder
      have hvalues : ∀ lexeme, .number lexeme ∈ ps →
          ∃ x, numeralValue lexeme = .ok x ∧ x.isFinite = true :=
        fun lexeme hl => hscanned.finite_value (hreads.mem _ hl).1
      show (∃ x, evalPostfix ps = .ok x ∧ _) ∨ ∃ e, evalPostfix ps = .error (.refused e)
      cases hvalue : evalPostfix ps with
      | ok x => exact .inl ⟨x, rfl, evalPostfix_finite hvalues hvalue⟩
      | error e =>
        obtain ⟨r, rfl, _⟩ := refused_of_evalPostfix
          (fun lexeme hl => (hvalues lexeme hl).imp fun _ h => h.1) hvalue
        exact .inr ⟨r, rfl⟩

/-! ## answers -/

theorem Error.message_ne_empty (e : Error) : e.message ≠ "" := by
  have behind : ∀ s t : String, t ≠ "" → s ++ t ≠ "" := by
    intro s t ht h
    exact ht (String.append_eq_empty_iff.mp h).2
  cases e with
  | invalidCharacter c index => exact behind _ _ (by decide)
  | invalidNumber lexeme => exact behind _ _ (by decide)
  | numberTooLarge lexeme => exact behind _ _ (by decide)
  | _ => decide

theorem Error.code_ne_empty (e : Error) : e.code ≠ "" := by
  unfold code
  cases e.kind <;> decide

/-- A text that is not blank is answered with its value or with the refusal. -/
theorem answer_inked {text : String} (h : Text.hasInk text.toList = true) (places : Int) :
    (∃ x, evaluate text.toList = .ok x ∧ x.isFinite = true ∧
      answer places (some text) = .ok (.done (Decimal.display places x) (some x))) ∨
    ∃ e, evaluate text.toList = .error (.refused e) ∧
      answer places (some text) = .ok (.failed e.message e.code) := by
  rcases evaluate_outcome text.toList with ⟨x, hx, hfin⟩ | ⟨e, he⟩
  · refine .inl ⟨x, hx, hfin, ?_⟩
    simp only [answer, h, hx, Bool.not_true, Bool.false_eq_true, if_false]
  · refine .inr ⟨e, he, ?_⟩
    simp only [answer, h, he, Bool.not_true, Bool.false_eq_true, if_false]

/-- An answer gives a finite value with its text, or an error with a message and a code. -/
theorem answer_outcome (places : Int) (text? : Option String) :
    (∃ text x, text? = some text ∧ evaluate text.toList = .ok x ∧ x.isFinite = true ∧
      answer places text? = .ok (.done (Decimal.display places x) (some x))) ∨
    ∃ (message : String) (e : Error), answer places text? = .ok (.failed message e.code) ∧
      message ≠ "" ∧ e.code ≠ "" := by
  have hask : ("Type an expression first." : String) ≠ "" := by decide
  cases text? with
  | none => exact .inr ⟨_, .invalidExpression, rfl, hask, Error.code_ne_empty _⟩
  | some text =>
    cases hink : Text.hasInk text.toList with
    | false =>
      refine .inr ⟨"Type an expression first.", .invalidExpression, ?_, hask, Error.code_ne_empty _⟩
      simp only [answer, hink, Bool.not_false, if_true]
      rfl
    | true =>
      rcases answer_inked hink places with ⟨x, hx, hfin, h⟩ | ⟨e, -, h⟩
      · exact .inl ⟨text, x, rfl, hx, hfin, h⟩
      · exact .inr ⟨e.message, e, h, e.message_ne_empty, e.code_ne_empty⟩

end AlgebraDesk.Calculator

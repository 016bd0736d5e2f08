import AlgebraDesk.Calculator.Evaluate
import AlgebraDesk.Proofs.Calculator.Listing
import AlgebraDesk.Proofs.Result

/-!
# What the evaluation of a postfix list does

The listing of a tree leaves its value on top of whatever the stack held (`foldlM_order`), and a run
that succeeds leaves as many values as counting says (`height_of_foldlM`).  So a list of numerals and
operations has a value just when it is the listing of a tree that has one.

* `evalPostfix_order`   the result on the listing of a tree;
* `tree_of_evalPostfix` a list with a value is such a listing;
* `refused_of_evalPostfix`  the other lists are refused, when their numerals have values;
* `evaluate_stages`     the value of a text, stage by stage.
-/

namespace AlgebraDesk.Calculator

theorem Operation.apply_eq (op : Operation) (x y : Float) :
    op.apply x y = if op = .div ∧ y == 0 then .error .divisionByZero
      else if (op.raw x y).isFinite then .ok (op.raw x y) else .error .resultTooLarge := by
  unfold Operation.apply
  by_cases h : op = .div <;> simp [h]

theorem evalStep_symbol (op : Operation) (x y : Float) (stack : List Float) :
    evalStep (y :: x :: stack) op.symbol = match op.apply x y with
      | .ok z => .ok (z :: stack)
      | .error e => .error (.refused e) := by
  show (match (Operation.ofLexeme op.lexeme).apply x y with
    | .ok z => _
    | .error e => _) = _
  rw [Operation.ofLexeme_lexeme]

theorem Tree.value_number (lexeme : List Char) (stack : List Float) :
    evalStep stack (.number lexeme) = (Tree.number lexeme).value >>= fun x => .ok (x :: stack) := by
  cases h : numeralValue lexeme <;> simp only [evalStep, Tree.value, h] <;> rfl

theorem Tree.value_node (op : Operation) (l r : Tree) (stack : List Float) :
    (do let x ← l.value
        let y ← r.value
        evalStep (y :: x :: stack) op.symbol)
      = (Tree.node op l r).value >>= fun z => .ok (z :: stack) := by
  rw [Tree.value]
  cases l.value with
  | error e => rfl
  | ok x =>
    cases r.value with
    | error e => rfl
    | ok y =>
      show evalStep (y :: x :: stack) op.symbol
        = (if op = .div ∧ y == 0 then Except.error (Failure.refused .divisionByZero)
          else if (op.raw x y).isFinite then .ok (op.raw x y)
          else .error (.refused .resultTooLarge)) >>= fun z => .ok (z :: stack)
      rw [evalStep_symbol, Operation.apply_eq]
      by_cases hd : op = .div ∧ y == 0
      · rw [if_pos hd, if_pos hd]
        rfl
      · rw [if_neg hd, if_neg hd]
        cases (op.raw x y).isFinite <;> rfl

/-! ## the listing of a tree -/

/-- **Evaluating the listing of a tree** puts its value on the stack, and the rest follows. -/
theorem foldlM_order (t : Tree) : ∀ (stack : List Float) (rest : List Token),
    (t.order ++ rest).foldlM evalStep stack
      = t.value >>= fun x => rest.foldlM evalStep (x :: stack) := by
  induction t with
  | number lexeme =>
    intro stack rest
    show (evalStep stack (.number lexeme) >>= fun s => rest.foldlM evalStep s) = _
    rw [Tree.value_number, bind_assoc]
    rfl
  | node op l r ihl ihr =>
    intro stack rest
    have e : (Tree.node op l r).order ++ rest = l.order ++ (r.order ++ op.symbol :: rest) := by
      simp [Tree.order]
    rw [e, ihl]
    simp only [ihr]
    show (l.value >>= fun x => r.value >>= fun y =>
      (evalStep (y :: x :: stack) op.symbol >>= fun s => rest.foldlM evalStep s)) = _
    have h := congrArg (· >>= fun s => rest.foldlM evalStep s) (Tree.value_node op l r stack)
    simp only [bind_assoc] at h
    exact h

theorem evalPostfix_order (t : Tree) : evalPostfix t.order = t.value := by
  have h := foldlM_order t [] []
  rw [List.append_nil] at h
  unfold evalPostfix
  rw [h]
  cases t.value <;> rfl

/-! ## the height of the stack -/

theorem height_of_foldlM {ps : List Token} : ∀ {stack stack' : List Float},
    ps.foldlM evalStep stack = .ok stack' →
      heightAfter? stack.length ps = some stack'.length := by
  induction ps with
  | nil =>
    intro stack stack' h
    cases h
    rfl
  | cons p ps ih =>
    intro stack stack' h
    rw [List.foldlM_cons] at h
    obtain ⟨stack₁, h₁, h₂⟩ := bind_eq_ok.mp h
    match p, stack, h₁ with
    | .number l, stack, h₁ =>
      rw [Tree.value_number] at h₁
      obtain ⟨x, _, hs⟩ := bind_eq_ok.mp h₁
      cases hs
      exact ih h₂
    | .symbol s, y :: x :: stack, h₁ =>
      rw [evalStep] at h₁
      split at h₁
      · cases h₁
        exact ih h₂
      · cases h₁
    | .symbol s, [], h₁ => cases h₁
    | .symbol s, [_], h₁ => cases h₁

theorem evalPostfix_eq_ok {ps : List Token} {x : Float} :
    evalPostfix ps = .ok x ↔ ps.foldlM evalStep [] = .ok [x] := by
  unfold evalPostfix
  cases h : ps.foldlM evalStep [] with
  | error e => exact ⟨nofun, nofun⟩
  | ok stack =>
    match stack with
    | [y] => exact ⟨fun e => by cases e; rfl, fun e => by cases e; rfl⟩
    | [] => exact ⟨nofun, nofun⟩
    | _ :: _ :: _ => exact ⟨nofun, nofun⟩

/-- A list with a value is the listing of a tree with that value. -/
theorem tree_of_evalPostfix {ps : List Token} (plain : ∀ p ∈ ps, p.isPostfix) {x : Float}
    (h : evalPostfix ps = .ok x) : ∃ t : Tree, t.order = ps ∧ t.value = .ok x := by
  obtain ⟨t, rfl⟩ := (isListing_iff plain).mp (height_of_foldlM (evalPostfix_eq_ok.mp h))
  exact ⟨t, rfl, (evalPostfix_order t).symm.trans h⟩

/-! ## refusals -/

/-- A list whose numerals have values is refused when it has none: as no valid expression, as too
large, or for a division by zero. -/
theorem refused_of_evalPostfix {ps : List Token}
    (values : ∀ lexeme, .number lexeme ∈ ps → ∃ x, numeralValue lexeme = .ok x) {e : Failure}
    (h : evalPostfix ps = .error e) :
    ∃ r : Error, e = .refused r ∧ (r.kind = .invalidExpression ∨ r.kind = .divisionByZero) := by
  unfold evalPostfix at h
  cases hrun : ps.foldlM evalStep [] with
  | ok stack =>
    rw [hrun] at h
    match stack, h with
    | [], h => cases h; exact ⟨_, rfl, .inl rfl⟩
    | _ :: _ :: _, h => cases h; exact ⟨_, rfl, .inl rfl⟩
  | error e' =>
    rw [hrun] at h
    cases h
    obtain ⟨p, hp, stack, hstep⟩ := foldlM_error hrun
    match p, stack, hp, hstep with
    | .number l, stack, hp, hstep =>
      obtain ⟨x, hx⟩ := values l hp
      rw [evalStep, hx] at hstep
      cases hstep
    | .symbol s, y :: x :: stack, _, hstep =>
      rw [evalStep, Operation.apply_eq] at hstep
      split at hstep
      · cases hstep
      · rename_i r hr
        cases hstep
        refine ⟨r, rfl, ?_⟩
        split at hr
        · cases hr; exact .inr rfl
        · split at hr
          · cases hr
          · cases hr; exact .inl rfl
    | .symbol s, [], _, hstep => cases hstep; exact ⟨_, rfl, .inl rfl⟩
    | .symbol s, [_], _, hstep => cases hstep; exact ⟨_, rfl, .inl rfl⟩

/-! ## the stages -/

/-- Each stage starts when the one before it succeeds. -/
theorem evaluate_stages (text : List Char) : evaluate text = (do
    let ts ← (tokenize text).mapError .refused
    let ps ← (toPostfix ts).mapError .refused
    evalPostfix ps) := by
  unfold evaluate stages
  cases tokenize text with
  | error e => rfl
  | ok ts =>
    show _ = (toPostfix ts).mapError .refused >>= evalPostfix
    cases h : toPostfix ts <;> simp only [h] <;> rfl

theorem evaluate_of_tokenize {text : List Char} {ts ps : List Token}
    (hscan : tokenize text = .ok ts) (horder : toPostfix ts = .ok ps) :
    evaluate text = evalPostfix ps := by
  rw [evaluate_stages, hscan]
  show (toPostfix ts).mapError .refused >>= evalPostfix = _
  rw [horder]
  rfl

end AlgebraDesk.Calculator

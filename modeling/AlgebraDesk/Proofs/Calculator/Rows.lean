import AlgebraDesk.Proofs.Calculator.Evaluation
import AlgebraDesk.Proofs.Calculator.Safety
import Mathlib.Data.List.Forall2
import Mathlib.Data.List.Induction

/-!
# Any postfix list

A postfix list is read as a row of trees that have values: a numeral puts one more tree at the end
of the row, an operation joins the last two.  This goes on until an operation fails, finds fewer
than two trees, or the list ends.  So a list that is the listing of a tree is the listing of one
tree only and comes to its value, and any other list is refused.

* `Tree.order_inj`     no two trees have the same listing;
* `IsItem`             a numeral with a finite value, or an operation;
* `HaveValues`         trees with their values;
* `FailsAt`, `Starves`, `LeavesOther`   the ways in which a list comes to no value;
* `row_cases`          a list is a row of trees with values, or an operation of it fails or starves;
* `postfix_settled`    what any list comes to.
-/

namespace AlgebraDesk.Calculator

/-! ## one tree for a listing -/

namespace Operation

theorem symbol_inj {op op' : Operation} (h : op.symbol = op'.symbol) : op = op' := by
  have hlexeme : op.lexeme = op'.lexeme := Token.symbol.inj h
  rw [← ofLexeme_lexeme op, hlexeme, ofLexeme_lexeme]

end Operation

namespace Tree

/-- Where two lists end with the listings of trees, the trees are the same, and so is what stands
before them. -/
theorem append_order_inj : ∀ {t u : Tree} {front front' : List Token},
    front ++ t.order = front' ++ u.order → t = u ∧ front = front' := by
  intro t
  induction t with
  | number lexeme =>
    intro u front front' h
    cases u with
    | number lexeme' =>
      obtain ⟨hfront, hlast⟩ := List.append_inj' h rfl
      exact ⟨congrArg Tree.number (Token.number.inj (List.singleton_inj.mp hlast)), hfront⟩
    | node op' l' r' =>
      rw [order, order, ← List.append_assoc] at h
      cases List.singleton_inj.mp (List.append_inj' h rfl).2
  | node op l r ihl ihr =>
    intro u front front' h
    cases u with
    | number lexeme' =>
      rw [order, order, ← List.append_assoc] at h
      cases List.singleton_inj.mp (List.append_inj' h rfl).2
    | node op' l' r' =>
      rw [order, order, ← List.append_assoc, ← List.append_assoc, ← List.append_assoc,
        ← List.append_assoc] at h
      obtain ⟨hbefore, hlast⟩ := List.append_inj' h rfl
      obtain ⟨rfl, hleft⟩ := ihr hbefore
      obtain ⟨rfl, hfront⟩ := ihl hleft
      obtain rfl := Operation.symbol_inj (List.singleton_inj.mp hlast)
      exact ⟨rfl, hfront⟩

/-- **No two trees have the same listing.** -/
theorem order_inj {t u : Tree} (h : t.order = u.order) : t = u := by
  have hempty : [] ++ t.order = [] ++ u.order := h
  exact (append_order_inj hempty).1

end Tree

/-! ## rows of trees -/

/-- A numeral with a finite value, or an operation. -/
inductive IsItem : Token → Prop
  | number {lexeme : List Char} {x : Float} (hvalue : numeralValue lexeme = .ok x)
    (hfinite : x.isFinite = true) : IsItem (.number lexeme)
  | symbol (op : Operation) : IsItem op.symbol

/-- Two operands for which an operation has no value, and why. -/
inductive Operation.Fails (op : Operation) (left right : Float) : Error → Prop
  | byZero (h : op = .div ∧ right == 0) : op.Fails left right .divisionByZero
  | tooLarge (h : ¬ (op = .div ∧ right == 0)) (hraw : (op.raw left right).isFinite = false) :
    op.Fails left right .resultTooLarge

/-- Trees with their values. -/
def HaveValues (trees : List Tree) (xs : List Float) : Prop :=
  List.Forall₂ (fun t x => t.value = .ok x) trees xs

/-- the listings of a row of trees, one after the other -/
def rowOrder (trees : List Tree) : List Token := trees.flatMap Tree.order

/-- Behind trees with values an operation on two more values fails. -/
inductive FailsAt : List Token → Error → Prop
  | intro {trees : List Tree} {xs : List Float} {op : Operation} {l r : Tree} {x y : Float}
    {e : Error} (hrow : HaveValues trees xs) (hl : l.value = .ok x) (hr : r.value = .ok y)
    (h : op.Fails x y e) (back : List Token) :
    FailsAt (rowOrder trees ++ ((Tree.node op l r).order ++ back)) e

/-- An operation finds fewer than two values. -/
inductive Starves : List Token → Prop
  | intro {trees : List Tree} {xs : List Float} (hrow : HaveValues trees xs) (h : trees.length < 2)
    (op : Operation) (back : List Token) : Starves (rowOrder trees ++ op.symbol :: back)

/-- Every operation has its value, and not one value is left, but none or several. -/
inductive LeavesOther : List Token → Prop
  | intro {trees : List Tree} {xs : List Float} (hrow : HaveValues trees xs)
    (h : trees.length ≠ 1) : LeavesOther (rowOrder trees)

section
variable {trees : List Tree} {xs : List Float} {ps : List Token} {e : Error}

theorem rowOrder_append (trees trees' : List Tree) :
    rowOrder (trees ++ trees') = rowOrder trees ++ rowOrder trees' :=
  List.flatMap_append

theorem rowOrder_cons_append (t : Tree) (trees : List Tree) (rest : List Token) :
    rowOrder (t :: trees) ++ rest = t.order ++ (rowOrder trees ++ rest) :=
  List.append_assoc t.order (rowOrder trees) rest

theorem rowOrder_singleton (t : Tree) : rowOrder [t] = t.order := by
  simp [rowOrder]

theorem HaveValues.concat (h : HaveValues trees xs) {t : Tree} {x : Float}
    (ht : t.value = .ok x) : HaveValues (trees ++ [t]) (xs ++ [x]) :=
  List.rel_append h (.cons ht .nil)

theorem IsItem.isPostfix {p : Token} (h : IsItem p) : p.isPostfix := by
  cases h with
  | number => exact .inl ⟨_, rfl⟩
  | symbol op => exact .inr ⟨op, rfl⟩

theorem Operation.apply_cases (op : Operation) (x y : Float) :
    (op.apply x y = .ok (op.raw x y) ∧ ∀ e, ¬ op.Fails x y e) ∨
    ∃ e, op.apply x y = .error e ∧ op.Fails x y e := by
  rw [apply_eq]
  by_cases hzero : op = .div ∧ y == 0
  · rw [if_pos hzero]
    exact .inr ⟨_, rfl, .byZero hzero⟩
  · rw [if_neg hzero]
    cases hraw : (op.raw x y).isFinite with
    | true =>
      refine .inl ⟨rfl, fun e h => ?_⟩
      cases h with
      | byZero h => exact hzero h
      | tooLarge _ h =>
        rw [hraw] at h
        cases h
    | false => exact .inr ⟨_, rfl, .tooLarge hzero hraw⟩

theorem Operation.Fails.apply_eq_error {op : Operation} {x y : Float} (h : op.Fails x y e) :
    op.apply x y = .error e := by
  rw [apply_eq]
  cases h with
  | byZero h => rw [if_pos h]
  | tooLarge h hraw =>
    rw [if_neg h, hraw]
    rfl

/-- The value of a tree that is joined from two trees with values. -/
theorem Tree.value_join (op : Operation) {l r : Tree} {x y : Float} (hl : l.value = .ok x)
    (hr : r.value = .ok y) :
    (Tree.node op l r).value = (op.apply x y).mapError .refused := by
  rw [Tree.value, hl, hr, Operation.apply_eq]
  dsimp only
  by_cases hzero : op = .div ∧ y == 0
  · rw [if_pos hzero, if_pos hzero]
    rfl
  · rw [if_neg hzero, if_neg hzero]
    cases (op.raw x y).isFinite <;> rfl

/-! ## reading a list as a row -/

/-- A row of two trees or more has a last one and one before it. -/
theorem exists_last_two (h : HaveValues trees xs) (htwo : 2 ≤ trees.length) :
    ∃ trees' xs' l r x y, trees = trees' ++ [l, r] ∧ HaveValues trees' xs' ∧
      l.value = .ok x ∧ r.value = .ok y := by
  induction h with
  | nil => cases htwo
  | @cons t x trees xs ht hrow ih =>
    rcases Nat.lt_or_ge trees.length 2 with hshort | hlong
    · match trees, xs, hrow, hshort, htwo with
      | [r], [y], .cons hr .nil, _, _ => exact ⟨[], [], t, r, x, y, rfl, .nil, ht, hr⟩
    · obtain ⟨trees', xs', l, r, x', y, rfl, hrow', hl, hr⟩ := ih hlong
      exact ⟨t :: trees', x :: xs', l, r, x', y, rfl, .cons ht hrow', hl, hr⟩

theorem Starves.append (h : Starves ps) (back : List Token) : Starves (ps ++ back) := by
  obtain ⟨hrow, hshort, op, rest⟩ := h
  rw [List.append_assoc, List.cons_append]
  exact .intro hrow hshort op (rest ++ back)

theorem FailsAt.append (h : FailsAt ps e) (back : List Token) : FailsAt (ps ++ back) e := by
  obtain ⟨hrow, hl, hr, hop, rest⟩ := h
  rw [List.append_assoc, List.append_assoc]
  exact .intro hrow hl hr hop (rest ++ back)

/-- One more operation joins the last two trees, unless it fails or starves. -/
theorem row_operation (h : HaveValues trees xs) (op : Operation) :
    (∃ trees' xs', HaveValues trees' xs' ∧ rowOrder trees ++ [op.symbol] = rowOrder trees') ∨
    Starves (rowOrder trees ++ [op.symbol]) ∨ ∃ e, FailsAt (rowOrder trees ++ [op.symbol]) e := by
  rcases Nat.lt_or_ge trees.length 2 with hshort | htwo
  · exact .inr (.inl (.intro h hshort op []))
  · obtain ⟨trees', xs', l, r, x, y, rfl, hrow, hl, hr⟩ := exists_last_two h htwo
    have hjoin : rowOrder (trees' ++ [l, r]) ++ [op.symbol]
        = rowOrder trees' ++ (Tree.node op l r).order := by
      rw [rowOrder_append]
      simp [rowOrder, Tree.order]
    have hvalue := Tree.value_join op hl hr
    rcases op.apply_cases x y with ⟨happly, -⟩ | ⟨e, -, hfails⟩
    · rw [happly] at hvalue
      refine .inl ⟨_, _, hrow.concat hvalue, ?_⟩
      rw [hjoin, rowOrder_append, rowOrder_singleton]
    · refine .inr (.inr ⟨e, ?_⟩)
      rw [hjoin, ← List.append_nil (Tree.node op l r).order]
      exact .intro hrow hl hr hfails []

/-- **A list is a row of trees with values**, or an operation fails or starves before its end. -/
theorem row_cases (hps : ∀ p ∈ ps, IsItem p) :
    (∃ trees xs, HaveValues trees xs ∧ ps = rowOrder trees) ∨ Starves ps ∨ ∃ e, FailsAt ps e := by
  induction ps using List.reverseRecOn with
  | nil => exact .inl ⟨[], [], .nil, rfl⟩
  | append_singleton ps p ih =>
    have hp := hps p (List.mem_append_right ps (List.mem_singleton_self p))
    rcases ih fun q hq => hps q (List.mem_append_left _ hq) with
      ⟨trees, xs, hrow, rfl⟩ | hstarves | ⟨e, hfails⟩
    · cases hp with
      | @number lexeme x hvalue hfinite =>
        have ht : (Tree.number lexeme).value = .ok x := by rw [Tree.value, hvalue]
        refine .inl ⟨_, _, hrow.concat ht, ?_⟩
        rw [rowOrder_append, rowOrder_singleton]
        rfl
      | symbol op => exact row_operation hrow op
    · exact .inr (.inl (hstarves.append [p]))
    · exact .inr (.inr ⟨e, hfails.append [p]⟩)

/-! ## evaluating a row -/

/-- **Trees with values leave their values** on the stack, the last one on top. -/
theorem foldlM_row (h : HaveValues trees xs) (stack : List Float) (rest : List Token) :
    (rowOrder trees ++ rest).foldlM evalStep stack
      = rest.foldlM evalStep (xs.reverse ++ stack) := by
  induction h generalizing stack with
  | nil => rfl
  | @cons t x trees xs ht hrow ih =>
    rw [rowOrder_cons_append, foldlM_order, ht, ok_bind, ih, List.reverse_cons, List.append_assoc]
    rfl

theorem evalPostfix_of_failsAt (h : FailsAt ps e) : evalPostfix ps = .error (.refused e) := by
  obtain ⟨hrow, hl, hr, hop, back⟩ := h
  unfold evalPostfix
  rw [foldlM_row hrow, foldlM_order, Tree.value_join _ hl hr, hop.apply_eq_error]
  rfl

theorem evalPostfix_of_starves (h : Starves ps) :
    evalPostfix ps = .error (.refused .invalidExpression) := by
  obtain ⟨hrow, hshort, op, back⟩ := h
  unfold evalPostfix
  rw [foldlM_row hrow, List.foldlM_cons]
  cases hrow with
  | nil => rfl
  | cons _ hrow =>
    cases hrow with
    | nil => rfl
    | cons _ _ => exact absurd hshort (by simp)

theorem evalPostfix_of_leavesOther (h : LeavesOther ps) :
    evalPostfix ps = .error (.refused .invalidExpression) := by
  obtain ⟨hrow, hlength⟩ := h
  have hrun := foldlM_row hrow [] []
  rw [List.append_nil, List.append_nil] at hrun
  rw [hrow.length_eq, ← List.length_reverse] at hlength
  unfold evalPostfix
  rw [hrun]
  generalize List.reverse _ = stack at hlength ⊢
  match stack, hlength with
  | [], _ => rfl
  | [_], hlength => exact absurd rfl hlength
  | _ :: _ :: _, _ => rfl

/-! ## counting -/

theorem heightAfter_row (trees : List Tree) (rest : List Token) (height : Nat) :
    heightAfter? height (rowOrder trees ++ rest) = heightAfter? (height + trees.length) rest := by
  induction trees generalizing height with
  | nil => rfl
  | cons t trees ih =>
    rw [rowOrder_cons_append, heightAfter_order, ih, List.length_cons]
    congr 1
    omega

theorem Starves.not_isListing (h : Starves ps) : ¬ IsListing ps := by
  obtain ⟨hrow, hshort, op, back⟩ := h
  unfold IsListing
  rw [heightAfter_row, Nat.zero_add]
  generalize List.length _ = height at hshort ⊢
  match height, hshort with
  | 0, _ => exact nofun
  | 1, _ => exact nofun

theorem LeavesOther.not_isListing (h : LeavesOther ps) : ¬ IsListing ps := by
  cases h with
  | @intro trees _ _ hlength =>
    have hheight := heightAfter_row trees [] 0
    rw [List.append_nil, Nat.zero_add] at hheight
    unfold IsListing
    rw [hheight]
    exact fun h => hlength (Option.some.inj h)

/-! ## any list -/

/-- **A list comes to a finite value, or is refused for one reason.** -/
theorem list_cases (hps : ∀ p ∈ ps, IsItem p) :
    (∃ (t : Tree) (x : Float), t.order = ps ∧ t.value = .ok x) ∨ Starves ps ∨ LeavesOther ps ∨
      ∃ e, FailsAt ps e := by
  rcases row_cases hps with ⟨trees, xs, hrow, rfl⟩ | hstarves | hfails
  · by_cases hone : trees.length = 1
    · obtain ⟨t, rfl⟩ := List.length_eq_one_iff.mp hone
      obtain ⟨x, ht⟩ : ∃ x, t.value = .ok x := by
        cases hrow with
        | cons ht _ => exact ⟨_, ht⟩
      exact .inl ⟨t, x, (rowOrder_singleton t).symm, ht⟩
    · exact .inr (.inr (.inl (.intro hrow hone)))
  · exact .inr (.inl hstarves)
  · exact .inr (.inr (.inr hfails))

theorem IsItem.finite (hps : ∀ p ∈ ps, IsItem p) : ∀ lexeme, .number lexeme ∈ ps →
    ∃ x, numeralValue lexeme = .ok x ∧ x.isFinite = true := by
  intro lexeme hl
  cases hps _ hl with
  | number hvalue hfinite => exact ⟨_, hvalue, hfinite⟩

/-- **What a list of numerals and operations comes to.**  If it is the listing of a tree, there is
one such tree, and its value is the result: a finite number, or the error of the first operation
that fails.  Any other list has no value.  An operation that fails decides what is said; otherwise
an operation starves, or not one value is left, and the expression is invalid. -/
theorem postfix_settled (hps : ∀ p ∈ ps, IsItem p) :
    (∀ t : Tree, t.order = ps →
      (∀ u : Tree, u.order = ps → u = t) ∧ evalPostfix ps = t.value ∧
      ((∃ x, t.value = .ok x ∧ x.isFinite = true) ∨
        ∃ e, t.value = .error (.refused e) ∧ FailsAt ps e)) ∧
    ((¬ ∃ t : Tree, t.order = ps) →
      (∀ x, evalPostfix ps ≠ .ok x) ∧
      (∀ e, FailsAt ps e → evalPostfix ps = .error (.refused e)) ∧
      ((∀ e, ¬ FailsAt ps e) → (Starves ps ∨ LeavesOther ps) ∧
        evalPostfix ps = .error (.refused .invalidExpression))) := by
  have hplain : ∀ p ∈ ps, p.isPostfix := fun p hp => (hps p hp).isPostfix
  constructor
  · rintro t rfl
    have hlisting : IsListing t.order := (isListing_iff hplain).mpr ⟨t, rfl⟩
    refine ⟨fun u hu => Tree.order_inj hu, evalPostfix_order t, ?_⟩
    rcases list_cases hps with ⟨u, x, hu, hx⟩ | hstarves | hleaves | ⟨e, hfails⟩
    · obtain rfl := Tree.order_inj hu
      have hvalue := (evalPostfix_order u).trans hx
      exact .inl ⟨x, hx, evalPostfix_finite (IsItem.finite hps) hvalue⟩
    · exact absurd hlisting hstarves.not_isListing
    · exact absurd hlisting hleaves.not_isListing
    · exact .inr ⟨e, (evalPostfix_order t).symm.trans (evalPostfix_of_failsAt hfails), hfails⟩
  · intro hnone
    refine ⟨fun x hx => ?_, fun e hfails => evalPostfix_of_failsAt hfails, fun hfails => ?_⟩
    · obtain ⟨t, ht, -⟩ := tree_of_evalPostfix hplain hx
      exact hnone ⟨t, ht⟩
    · rcases list_cases hps with ⟨t, _, ht, _⟩ | hstarves | hleaves | ⟨e, hfail⟩
      · exact absurd ⟨t, ht⟩ hnone
      · exact ⟨.inl hstarves, evalPostfix_of_starves hstarves⟩
      · exact ⟨.inr hleaves, evalPostfix_of_leavesOther hleaves⟩
      · exact absurd hfail (hfails e)

end

/-- A division by zero comes before an operation that starves. -/
theorem postfix_settled_zero_divisor :
    let ps : List Token := [.number ['1'], .number ['0'], .symbol ['/'], .symbol ['+']]
    (∀ p ∈ ps, IsItem p) ∧ FailsAt ps .divisionByZero ∧ (¬ ∃ t : Tree, t.order = ps) ∧
      evalPostfix ps = .error (.refused .divisionByZero) := by
  intro ps
  have hone : numeralValue ['1'] = .ok 1 := by decide +kernel
  have hzero : numeralValue ['0'] = .ok 0 := by decide +kernel
  have hps : ∀ p ∈ ps, IsItem p := by
    intro p hp
    simp only [ps, List.mem_cons, List.not_mem_nil, or_false] at hp
    rcases hp with rfl | rfl | rfl | rfl
    · exact .number hone (by decide +kernel)
    · exact .number hzero (by decide +kernel)
    · exact .symbol .div
    · exact .symbol .add
  have hl : (Tree.number ['1']).value = .ok 1 := by rw [Tree.value, hone]
  have hr : (Tree.number ['0']).value = .ok 0 := by rw [Tree.value, hzero]
  have hdivision : Operation.div.Fails 1 0 .divisionByZero := .byZero ⟨rfl, by decide +kernel⟩
  have hrow : HaveValues [] [] := .nil
  have hfails : FailsAt ps .divisionByZero := .intro hrow hl hr hdivision [.symbol ['+']]
  have hnone : ¬ ∃ t : Tree, t.order = ps := by
    rw [← isListing_iff fun p hp => (hps p hp).isPostfix]
    decide
  exact ⟨hps, hfails, hnone, ((postfix_settled hps).2 hnone).2.1 _ hfails⟩

end AlgebraDesk.Calculator

import AlgebraDesk.Plot.Expression
import Mathlib.Tactic.Ring

/-!
# Polynomials as graph expressions

A polynomial is written term by term: a number, the unknown or its square, or a number in front of
one of these, and a sign in front of every term but the first, where there may be a minus sign.  Its
tree is read from the left.  A minus sign in front of the first term binds tighter than the product
that stands there without a sign, and less tightly than the power.

* `Expression.value?`   the value of an expression at a point, in exact arithmetic;
* `Unknown`, `Monomial`, `Signed`   the terms: their tokens, their trees and their values;
* `readProduct_monomial`, `readProduct_first`   one term;
* `ofTokens?_sum`       the tree of a sum of terms;
* `symbols_sumTree`     it has no name but the variable;
* `value?_sumTree`      the value of this tree.
-/

namespace AlgebraDesk.Plot

open Decimal (Digits)

/-! ## values -/

/-- The value of an expression at `x`, where a literal counts for what `literal` says: of literals
and the variable with signs, sums, differences, products and whole powers.  No other expression has
a value here. -/
def Expression.value? (literal : Digits → Rat) (x : Rat) : Expression → Option Rat
  | .numeral d _ => some (literal d)
  | .variable => some x
  | .neg e => do return -(← e.value? literal x)
  | .combine .add l r => do return (← l.value? literal x) + (← r.value? literal x)
  | .combine .sub l r => do return (← l.value? literal x) - (← r.value? literal x)
  | .combine .mul l r => do return (← l.value? literal x) * (← r.value? literal x)
  | .combine .pow l (.numeral d .whole) => do return (← l.value? literal x) ^ d.significand
  | _ => none

/-! ## terms -/

/-- The unknown as it stands in a term. -/
inductive Unknown where
  | plain | squared
  deriving DecidableEq

namespace Unknown

def chars : Unknown → List Char
  | .plain => ['x']
  | .squared => ['x', '^', '2']

def tokens : Unknown → List Token
  | .plain => [.symbol ['x']]
  | .squared => [.symbol ['x'], .power, .numeral ⟨2, 0⟩ .whole]

def expression : Unknown → Expression
  | .plain => .variable
  | .squared => .combine .pow .variable (.numeral ⟨2, 0⟩ .whole)

def value (x : Rat) : Unknown → Rat
  | .plain => x
  | .squared => x ^ 2

end Unknown

inductive Monomial where
  | constant (d : Digits) (spelling : Spelling)
  | unit (u : Unknown)
  | scaled (d : Digits) (spelling : Spelling) (u : Unknown)

namespace Monomial

def tokens : Monomial → List Token
  | .constant d spelling => [.numeral d spelling]
  | .unit u => u.tokens
  | .scaled d spelling u => .numeral d spelling :: u.tokens

def expression : Monomial → Expression
  | .constant d spelling => .numeral d spelling
  | .unit u => u.expression
  | .scaled d spelling u => .combine .mul (.numeral d spelling) u.expression

/-- The tree behind a minus sign at the beginning. -/
def negated : Monomial → Expression
  | .constant d spelling => .neg (.numeral d spelling)
  | .unit u => .neg u.expression
  | .scaled d spelling u => .combine .mul (.neg (.numeral d spelling)) u.expression

def value (literal : Digits → Rat) (x : Rat) : Monomial → Rat
  | .constant d _ => literal d
  | .unit u => u.value x
  | .scaled d _ u => literal d * u.value x

end Monomial

structure Signed where
  negative : Bool
  monomial : Monomial

namespace Signed

def tokens (s : Signed) : List Token :=
  (if s.negative then .minus else .plus) :: s.monomial.tokens

/-- At the beginning there is no plus sign. -/
def firstTokens (s : Signed) : List Token :=
  if s.negative then .minus :: s.monomial.tokens else s.monomial.tokens

def firstTree (s : Signed) : Expression :=
  if s.negative then s.monomial.negated else s.monomial.expression

/-- The tree of a sum with one more term. -/
def tree (e : Expression) (s : Signed) : Expression :=
  .combine (if s.negative then .sub else .add) e s.monomial.expression

def value (literal : Digits → Rat) (x : Rat) (s : Signed) : Rat :=
  if s.negative then -s.monomial.value literal x else s.monomial.value literal x

end Signed

/-! ## reading -/

/-- What can stand behind a term: nothing, or a sign. -/
inductive Stops : List Token → Prop where
  | nil : Stops []
  | plus (ts : List Token) : Stops (.plus :: ts)
  | minus (ts : List Token) : Stops (.minus :: ts)

section
variable {rest : List Token}

/-- **A term is read as a whole.**  Eight steps are enough for it. -/
theorem readProduct_monomial (fuel : Nat) (m : Monomial) (h : Stops rest) :
    readProduct (fuel + 8) (m.tokens ++ rest) = some (m.expression, rest) := by
  cases m with
  | constant d spelling => cases h <;> rfl
  | unit u => cases u <;> cases h <;> rfl
  | scaled d spelling u => cases u <;> cases h <;> rfl

theorem readProduct_negated (fuel : Nat) (m : Monomial) (h : Stops rest) :
    readProduct (fuel + 8) (.minus :: m.tokens ++ rest) = some (m.negated, rest) := by
  cases m with
  | constant d spelling => cases h <;> rfl
  | unit u => cases u <;> cases h <;> rfl
  | scaled d spelling u => cases u <;> cases h <;> rfl

theorem stops_tokens (ss : List Signed) : Stops (ss.flatMap Signed.tokens) := by
  cases ss with
  | nil => exact .nil
  | cons s ss =>
    rw [List.flatMap_cons]
    unfold Signed.tokens
    cases s.negative with
    | false => exact .plus _
    | true => exact .minus _

theorem sumFrom_tokens (fuel : Nat) (ss : List Signed) (e : Expression) :
    sumFrom (fuel + ss.length + 9) e (ss.flatMap Signed.tokens)
      = some (ss.foldl Signed.tree e, []) := by
  induction ss generalizing e with
  | nil => rfl
  | cons s ss ih =>
    have hproduct := readProduct_monomial (fuel + ss.length + 1) s.monomial (stops_tokens ss)
    rw [List.flatMap_cons, List.foldl_cons, ← ih]
    obtain ⟨negative, m⟩ := s
    cases negative with
    | false =>
      show sumFrom (fuel + ss.length + 9 + 1) e
        (.plus :: (m.tokens ++ ss.flatMap Signed.tokens)) = _
      rw [sumFrom, hproduct]
      rfl
    | true =>
      show sumFrom (fuel + ss.length + 9 + 1) e
        (.minus :: (m.tokens ++ ss.flatMap Signed.tokens)) = _
      rw [sumFrom, hproduct]
      rfl

theorem readProduct_first (fuel : Nat) (s : Signed) (h : Stops rest) :
    readProduct (fuel + 8) (s.firstTokens ++ rest) = some (s.firstTree, rest) := by
  unfold Signed.firstTokens Signed.firstTree
  cases s.negative with
  | false => exact readProduct_monomial fuel s.monomial h
  | true => exact readProduct_negated fuel s.monomial h

end

section
variable (s : Signed) (ss : List Signed)

/-- The tokens of a polynomial. -/
def sumTokens : List Token := s.firstTokens ++ ss.flatMap Signed.tokens

/-- The tree of a polynomial. -/
def sumTree : Expression := ss.foldl Signed.tree s.firstTree

theorem Monomial.length_tokens_pos (m : Monomial) : 0 < m.tokens.length := by
  cases m with
  | constant d spelling => exact Nat.one_pos
  | unit u => cases u <;> decide
  | scaled d spelling u => exact Nat.succ_pos _

theorem length_sumTokens : ss.length < (sumTokens s ss).length := by
  have hfirst : 0 < s.firstTokens.length := by
    have hpos := s.monomial.length_tokens_pos
    unfold Signed.firstTokens
    split
    · exact Nat.succ_pos _
    · exact hpos
  have hrest : ss.length ≤ (ss.flatMap Signed.tokens).length := by
    induction ss with
    | nil => exact Nat.le_refl _
    | cons s ss ih =>
      rw [List.flatMap_cons, List.length_append, List.length_cons, Signed.tokens, List.length_cons]
      omega
  unfold sumTokens
  rw [List.length_append]
  omega

/-- **A polynomial is read as its tree.** -/
theorem ofTokens?_sum : Expression.ofTokens? (sumTokens s ss) = some (sumTree s ss) := by
  obtain ⟨fuel, hfuel⟩ : ∃ fuel, fuelFor (sumTokens s ss).length = fuel + ss.length + 9 + 1 := by
    have hlength := length_sumTokens s ss
    refine ⟨fuelFor (sumTokens s ss).length - ss.length - 10, ?_⟩
    unfold fuelFor
    omega
  have hread : readSum (fuel + ss.length + 9 + 1) (sumTokens s ss) = some (sumTree s ss, []) := by
    have hproduct := readProduct_first (fuel + ss.length + 1) s (stops_tokens ss)
    unfold sumTokens
    rw [readSum, hproduct]
    exact sumFrom_tokens fuel ss s.firstTree
  unfold Expression.ofTokens?
  rw [hfuel, hread]

/-! ## names and values -/

theorem Unknown.names_expression (u : Unknown) : u.expression.names = [] := by cases u <;> rfl

theorem Monomial.names_expression (m : Monomial) :
    m.expression.names = [] ∧ m.negated.names = [] := by
  cases m with
  | constant d spelling => exact ⟨rfl, rfl⟩
  | unit u => exact ⟨u.names_expression, u.names_expression⟩
  | scaled d spelling u => exact ⟨u.names_expression, u.names_expression⟩

/-- **No name but the variable occurs.** -/
theorem symbols_sumTree : (sumTree s ss).symbols = [] := by
  have hfold : ∀ e : Expression, e.names = [] → (ss.foldl Signed.tree e).names = [] := by
    induction ss with
    | nil => exact fun e he => he
    | cons t ss ih =>
      intro e he
      refine ih _ ?_
      show e.names ++ t.monomial.expression.names = []
      rw [he, t.monomial.names_expression.1]
      rfl
  have hnames : (sumTree s ss).names = [] := by
    refine hfold _ ?_
    unfold Signed.firstTree
    split
    · exact s.monomial.names_expression.2
    · exact s.monomial.names_expression.1
  unfold Expression.symbols
  rw [hnames, List.eraseDups_nil, List.mergeSort_nil]

variable (literal : Digits → Rat) (x : Rat)

theorem Unknown.value?_expression (u : Unknown) :
    u.expression.value? literal x = some (u.value x) := by cases u <;> rfl

theorem Monomial.value?_expression (m : Monomial) :
    m.expression.value? literal x = some (m.value literal x) := by
  cases m with
  | constant d spelling => rfl
  | unit u => exact u.value?_expression literal x
  | scaled d spelling u =>
    show (u.expression.value? literal x >>= fun v => some (literal d * v)) = _
    rw [u.value?_expression]
    rfl

/-- Where the minus sign stands makes no difference to the value. -/
theorem Monomial.value?_negated (m : Monomial) :
    m.negated.value? literal x = some (-m.value literal x) := by
  cases m with
  | constant d spelling => rfl
  | unit u =>
    show (u.expression.value? literal x >>= fun v => some (-v)) = _
    rw [u.value?_expression]
    rfl
  | scaled d spelling u =>
    show (u.expression.value? literal x >>= fun v => some (-literal d * v)) = _
    rw [u.value?_expression]
    exact congrArg some (neg_mul _ _)

theorem Signed.value?_firstTree : s.firstTree.value? literal x = some (s.value literal x) := by
  unfold Signed.firstTree Signed.value
  cases s.negative with
  | false => exact s.monomial.value?_expression literal x
  | true => exact s.monomial.value?_negated literal x

theorem Signed.value?_tree {e : Expression} {v : Rat} (he : e.value? literal x = some v) :
    (s.tree e).value? literal x = some (v + s.value literal x) := by
  have hterm := s.monomial.value?_expression literal x
  unfold Signed.tree Signed.value
  cases s.negative with
  | false =>
    show (e.value? literal x >>= fun a => s.monomial.expression.value? literal x >>= fun b =>
      some (a + b)) = _
    rw [he, hterm]
    rfl
  | true =>
    show (e.value? literal x >>= fun a => s.monomial.expression.value? literal x >>= fun b =>
      some (a - b)) = _
    rw [he, hterm]
    exact congrArg some (sub_eq_add_neg _ _)

/-- **The value of a polynomial is the sum of the values of its terms.** -/
theorem value?_sumTree : (sumTree s ss).value? literal x
    = some (((s :: ss).map (Signed.value literal x)).sum) := by
  have hfold : ∀ (e : Expression) (v : Rat), e.value? literal x = some v →
      (ss.foldl Signed.tree e).value? literal x
        = some (v + (ss.map (Signed.value literal x)).sum) := by
    induction ss with
    | nil =>
      intro e v he
      rw [List.map_nil, List.sum_nil, add_zero]
      exact he
    | cons t ss ih =>
      intro e v he
      rw [List.foldl_cons, ih _ _ (t.value?_tree literal x he), List.map_cons, List.sum_cons,
        add_assoc]
  rw [List.map_cons, List.sum_cons]
  exact hfold _ _ (s.value?_firstTree literal x)

end

end AlgebraDesk.Plot

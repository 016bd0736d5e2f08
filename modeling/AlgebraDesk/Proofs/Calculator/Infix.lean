import AlgebraDesk.Proofs.Calculator.Neighbours
import AlgebraDesk.Proofs.Calculator.Scanning
import Mathlib.Control.Monad.Basic

/-!
# Expressions and their values

An expression evaluates as its tree, however it is spaced.  The other way round, a list of tokens
without operands side by side has a value only when it is an expression: the depth of the operand
stack shows that as many operands are missing as stand side by side, so none is missing.

* `evaluate_eq_value`  an expression evaluates as its tree;
* `derives_of_value`   what evaluates is an expression, when no operands stand side by side.
-/

namespace AlgebraDesk.Calculator

/-- **An expression evaluates as its tree.**  The operands of an operation come before it, the left
one first, and the first failure is the result; blanks may stand anywhere. -/
theorem evaluate_eq_value {ts : List Token} {t : Tree} {text : List Char} (h : Derives .sum ts t)
    (literals : ∀ lexeme, .number lexeme ∈ ts →
      IsLiteral lexeme ∧ ∃ x, numeralValue lexeme = .ok x ∧ x.isFinite = true)
    (spaced : Spaced (spelled ts) text) : evaluate text = t.value := by
  have hnum : ∀ lexeme, .number lexeme ∈ ts → numberToken lexeme = .ok (.number lexeme) := by
    intro lexeme hl
    obtain ⟨hform, hvalue⟩ := literals lexeme hl
    exact numberToken_eq_ok.mpr
      ⟨rfl, (isNumeral_iff lexeme).mpr hform, (hasFiniteValue_iff lexeme).mpr hvalue⟩
  have hscan : tokenize text = .ok ts := tokenize_spaced (h.scanned hnum) spaced
  rw [evaluate_of_tokenize hscan (toPostfix_reads h.reads), evalPostfix_order]

/-- The sign of the first numeral, the two precedences, a group, and blanks around and inside. -/
theorem evaluate_signed_product :
    Derives .sum [.number ['-', '3'], .symbol ['+'], .number ['2'], .symbol ['*'], opening,
        .number ['.', '5'], closing]
      (.node .add (.number ['-', '3']) (.node .mul (.number ['2']) (.number ['.', '5']))) ∧
    evaluate " - 3 + 2*(\n.5 )".toList =
      (Tree.node .add (.number ['-', '3'])
        (.node .mul (.number ['2']) (.number ['.', '5']))).value := by
  have hthree : Derives .sum [.number ['-', '3']] (.number ['-', '3']) :=
    .tighter (.tighter (.number _))
  have hhalf : Derives .operand [opening, .number ['.', '5'], closing] (.number ['.', '5']) :=
    .group (.tighter (.tighter (.number _)))
  have h : Derives .sum [.number ['-', '3'], .symbol ['+'], .number ['2'], .symbol ['*'], opening,
        .number ['.', '5'], closing]
      (.node .add (.number ['-', '3']) (.node .mul (.number ['2']) (.number ['.', '5']))) :=
    .node .add hthree (.node .mul (.tighter (.number _)) hhalf)
  refine ⟨h, evaluate_eq_value h ?_ ?_⟩
  · intro lexeme hl
    have hl' : lexeme = ['-', '3'] ∨ lexeme = ['2'] ∨ lexeme = ['.', '5'] := by
      simpa [opening, closing] using hl
    rw [← isNumeral_iff, ← hasFiniteValue_iff]
    rcases hl' with rfl | rfl | rfl <;> decide +kernel
  · exact spaced_removeBlanks " - 3 + 2*(\n.5 )".toList

/-- Both zeros divide nothing. -/
example : evaluate "1/-0".toList = .error (.refused .divisionByZero) := by decide +kernel

/-- **What evaluates is an expression**, when no operands stand side by side: no operand is missing,
and the value is that of the tree. -/
theorem derives_of_value {ts ps : List Token} {x : Float} (known : ∀ t ∈ ts, t.isKnown = true)
    (apart : ¬ Juxtaposed ts) (horder : toPostfix ts = .ok ps) (hvalue : evalPostfix ps = .ok x) :
    gaps ts = 0 ∧ ∃ t, Derives .sum ts t ∧ t.value = .ok x := by
  have hreads : Reads .sum ts ps := reads_of_toPostfix known horder
  obtain ⟨t, rfl, ht⟩ := tree_of_evalPostfix (fun p hp => (hreads.mem p hp).2) hvalue
  have hjoins : joins ts = 0 := by
    rw [juxtaposed_iff] at apart
    omega
  have hgaps : gaps ts = 0 := by
    have hcount := joins_sub_gaps ts
    rw [← hreads.surplus_eq, t.surplus_order, hjoins] at hcount
    omega
  obtain ⟨t', hd, ho⟩ := hreads.expression hjoins hgaps
  refine ⟨hgaps, t', hd, ?_⟩
  rw [← evalPostfix_order, ho, evalPostfix_order, ht]

/-- A product with a difference in parentheses. -/
theorem product_derives :
    let tokens : List Token := [.number ['2'], .symbol ['*'], opening, .number ['3'], .symbol ['-'],
      .number ['1'], closing]
    let order : List Token := [.number ['2'], .number ['3'], .number ['1'], .symbol ['-'],
      .symbol ['*']]
    (¬ Juxtaposed tokens ∧ toPostfix tokens = .ok order ∧ evalPostfix order = .ok 4) ∧
      gaps tokens = 0 ∧ ∃ t, Derives .sum tokens t ∧ t.value = .ok 4 := by
  intro tokens order
  have horder : toPostfix tokens = .ok order := by decide
  have hvalue : evalPostfix order = .ok 4 := by decide +kernel
  exact ⟨⟨by decide, horder, hvalue⟩, derives_of_value (by decide) (by decide) horder hvalue⟩

end AlgebraDesk.Calculator

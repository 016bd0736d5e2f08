import AlgebraDesk.Calculator.Postfix

/-!
# Two grammars of arithmetic

An expression in the usual sense is a list of tokens derived from

    E := T (('+' | '-') T)*     T := F (('*' | '/') F)*     F := number | '(' E ')'

and the repetitions are read from the left, so a derivation has a tree.  The ordering of the
calculator knows less: it reads every list whose parentheses balance, by the same rules for `E` and
`T`, but with a row of any number of items in the place of `F`.  An operand may then be missing, or
stand beside another one.

* `Tree`       operations over numerals, with the postfix listing `order` and the `value`;
* `Derives`    the grammar of expressions, each with its tree;
* `Reads`      the grammar of rows, each with its postfix order;
* `Balanced`   every parenthesis is closed, and none before it is opened;
* `Juxtaposed` two operands stand side by side;
* `joins`, `gaps`   how many pairs of operands do, and how many operands are missing.
-/

namespace AlgebraDesk.Calculator

/-! ## symbols -/

def opening : Token := .symbol ['(']
def closing : Token := .symbol [')']

/-- numbers and the six symbols of the calculator -/
def Token.isKnown : Token → Bool
  | .number _ => true
  | .symbol [c] => isSymbolChar c
  | .symbol _ => false

/-- the parts of an expression, from the loosest to the tightest -/
inductive Level where
  | sum | product | operand
  deriving DecidableEq, Repr

namespace Level

def tighter : Level → Level
  | .sum => .product
  | .product | .operand => .operand

def rank : Level → Nat
  | .sum => 1
  | .product => 2
  | .operand => 3

theorem rank_le_tighter (level : Level) : level.rank ≤ level.tighter.rank := by
  cases level <;> decide

end Level

namespace Operation

def lexeme : Operation → List Char
  | .add => ['+']
  | .sub => ['-']
  | .mul => ['*']
  | .div => ['/']

def symbol (op : Operation) : Token := .symbol op.lexeme

/-- the part of an expression that the operation joins to -/
def level : Operation → Level
  | .add | .sub => .sum
  | .mul | .div => .product

@[simp] theorem ofLexeme_lexeme (op : Operation) : ofLexeme op.lexeme = op := by cases op <;> rfl

theorem precedence_lexeme (op : Operation) : precedence? op.lexeme = some op.level.rank := by
  cases op <;> rfl

theorem rank_lt_tighter (op : Operation) : op.level.rank < op.level.tighter.rank := by
  cases op <;> decide

theorem symbol_ne_opening (op : Operation) : op.symbol ≠ opening := by cases op <;> decide
theorem symbol_ne_closing (op : Operation) : op.symbol ≠ closing := by cases op <;> decide

end Operation

theorem Token.known_cases {t : Token} (h : t.isKnown = true) :
    (∃ lexeme, t = .number lexeme) ∨ (∃ op : Operation, t = op.symbol) ∨ t = opening
      ∨ t = closing := by
  match t, h with
  | .number lexeme, _ => exact .inl ⟨lexeme, rfl⟩
  | .symbol [c], h =>
    simp only [isKnown, isSymbolChar, Bool.or_eq_true, beq_iff_eq] at h
    rcases h with ((((rfl | rfl) | rfl) | rfl) | rfl) | rfl
    · exact .inr (.inl ⟨.add, rfl⟩)
    · exact .inr (.inl ⟨.sub, rfl⟩)
    · exact .inr (.inl ⟨.mul, rfl⟩)
    · exact .inr (.inl ⟨.div, rfl⟩)
    · exact .inr (.inr (.inl rfl))
    · exact .inr (.inr (.inr rfl))
  | .symbol [], h => exact absurd h (by decide)
  | .symbol (_ :: _ :: _), h => exact absurd h Bool.false_ne_true

/-! ## trees -/

inductive Tree where
  | number (lexeme : List Char)
  | node (op : Operation) (left right : Tree)
  deriving DecidableEq, Repr

namespace Tree

/-- operands before their operation -/
def order : Tree → List Token
  | .number lexeme => [.number lexeme]
  | .node op left right => left.order ++ right.order ++ [op.symbol]

/-- From the leaves up, the left operand first; the first failure is the result.  The divisors that
equal zero are both zeros. -/
def value : Tree → Except Failure Float
  | .number lexeme =>
    match numeralValue lexeme with
    | .ok x => .ok x
    | .error f => .error (.fault f)
  | .node op left right =>
    match left.value with
    | .error e => .error e
    | .ok x =>
      match right.value with
      | .error e => .error e
      | .ok y =>
        if op = .div ∧ y == 0 then .error (.refused .divisionByZero)
        else if (op.raw x y).isFinite then .ok (op.raw x y)
        else .error (.refused .resultTooLarge)

end Tree

/-! ## expressions -/

/-- The repetitions of the grammar are read from the left: one more operand of the next tighter
level after what is read already. -/
inductive Derives : Level → List Token → Tree → Prop where
  | number (lexeme : List Char) : Derives .operand [.number lexeme] (.number lexeme)
  | group {ts : List Token} {t : Tree} :
    Derives .sum ts t → Derives .operand (opening :: (ts ++ [closing])) t
  | tighter {level : Level} {ts : List Token} {t : Tree} :
    Derives level.tighter ts t → Derives level ts t
  | node (op : Operation) {ls rs : List Token} {l r : Tree} :
    Derives op.level ls l → Derives op.level.tighter rs r →
      Derives op.level (ls ++ op.symbol :: rs) (.node op l r)

/-! ## rows -/

/-- The tokens with their postfix order. -/
inductive Reads : Level → List Token → List Token → Prop where
  | nil : Reads .operand [] []
  | number (lexeme : List Char) {ts ps : List Token} :
    Reads .operand ts ps → Reads .operand (ts ++ [.number lexeme]) (ps ++ [.number lexeme])
  | group {ts ps us qs : List Token} :
    Reads .operand ts ps → Reads .sum us qs →
      Reads .operand (ts ++ opening :: (us ++ [closing])) (ps ++ qs)
  | tighter {level : Level} {ts ps : List Token} :
    Reads level.tighter ts ps → Reads level ts ps
  | node (op : Operation) {ls ps rs qs : List Token} :
    Reads op.level ls ps → Reads op.level.tighter rs qs →
      Reads op.level (ls ++ op.symbol :: rs) (ps ++ qs ++ [op.symbol])

/-- An expression is read as the listing of its tree. -/
theorem Derives.reads {level : Level} {ts : List Token} {t : Tree} (h : Derives level ts t) :
    Reads level ts t.order := by
  induction h with
  | number lexeme => exact .number lexeme .nil
  | group _ ih => exact .group .nil ih
  | tighter _ ih => exact .tighter ih
  | node op _ _ ihl ihr => exact .node op ihl ihr

/-! ## parentheses -/

/-- How many parentheses are open after the tokens, none when one is closed that was not open. -/
def depthAfter? : Nat → List Token → Option Nat
  | depth, [] => some depth
  | depth, t :: ts =>
    if t = opening then depthAfter? (depth + 1) ts
    else if t = closing then
      match depth with
      | 0 => none
      | depth + 1 => depthAfter? depth ts
    else depthAfter? depth ts

theorem depthAfter_opening (depth : Nat) (ts : List Token) :
    depthAfter? depth (opening :: ts) = depthAfter? (depth + 1) ts := by
  simp [depthAfter?]

theorem depthAfter_closing (depth : Nat) (ts : List Token) :
    depthAfter? (depth + 1) (closing :: ts) = depthAfter? depth ts := by
  simp [depthAfter?, show closing ≠ opening by decide]

theorem depthAfter_number (depth : Nat) (lexeme : List Char) (ts : List Token) :
    depthAfter? depth (.number lexeme :: ts) = depthAfter? depth ts := by
  simp [depthAfter?, opening, closing]

theorem depthAfter_symbol (depth : Nat) (op : Operation) (ts : List Token) :
    depthAfter? depth (op.symbol :: ts) = depthAfter? depth ts := by
  simp [depthAfter?, op.symbol_ne_opening, op.symbol_ne_closing]

def Balanced (ts : List Token) : Prop := depthAfter? 0 ts = some 0

instance (ts : List Token) : Decidable (Balanced ts) :=
  inferInstanceAs (Decidable (depthAfter? 0 ts = some 0))

/-! ## neighbours -/

def Token.endsOperand : Token → Bool
  | .number _ => true
  | t => t == closing

def Token.startsOperand : Token → Bool
  | .number _ => true
  | t => t == opening

/-- An operand ends and the next token starts another one. -/
def Juxtaposed (ts : List Token) : Prop :=
  ∃ (before after : List Token) (a b : Token), ts = before ++ a :: b :: after ∧
    a.endsOperand = true ∧ b.startsOperand = true

/-- how many neighbours satisfy `p` -/
def neighbours (p : Token → Token → Bool) : List Token → Nat
  | a :: b :: ts => (p a b).toNat + neighbours p (b :: ts)
  | _ => 0

/-- pairs of operands side by side -/
def joins (ts : List Token) : Nat :=
  neighbours (fun a b => a.endsOperand && b.startsOperand) ts

/-- Operands that are missing: next to an operator, at an end of the list or of a pair of
parentheses, or between the two of an empty pair. -/
def gaps (ts : List Token) : Nat :=
  neighbours (fun a b => !a.endsOperand && !b.startsOperand) (opening :: (ts ++ [closing]))

end AlgebraDesk.Calculator

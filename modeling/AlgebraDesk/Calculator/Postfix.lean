import AlgebraDesk.Calculator.Scan

/-!
# Postfix order and its value

Operators wait on a stack until what follows binds less tightly, and a closing parenthesis releases
what its opening one holds back.  The postfix list is evaluated with a stack of doubles.  Any symbol
without precedence that is not an opening parenthesis closes, and any operator that is not `+ - *`
divides; from a scanned text only `)` and `/` come that way.

* `precedence?`    1 for `+ -`, 2 for `* /`;
* `toPostfix`      tokens in postfix order;
* `Operation.apply`  one operation, refused when the result is not finite;
* `evalPostfix`    the value of a postfix list.
-/

namespace AlgebraDesk.Calculator

def precedence? (lexeme : List Char) : Option Nat :=
  match lexeme with
  | ['+'] | ['-'] => some 1
  | ['*'] | ['/'] => some 2
  | _ => none

def isOpen (t : Token) : Bool := t.lexeme == ['(']

/-! ## ordering -/

/-- `output` is in reverse; the top of the stack comes first. -/
structure Yard where
  output : List Token
  stack : List Token
  deriving DecidableEq, Repr

namespace Yard

def empty : Yard := ⟨[], []⟩

/-- An operator on the stack that goes out before one of precedence `p` comes on. -/
def yields (p : Nat) (t : Token) : Bool :=
  match precedence? t.lexeme with
  | some q => p ≤ q
  | none => false

/-- The operators on top of the stack that satisfy `go` move to the output. -/
def releaseWhile (go : Token → Bool) (y : Yard) : Yard :=
  ⟨(y.stack.takeWhile go).reverse ++ y.output, y.stack.dropWhile go⟩

def close (y : Yard) : Except Error Yard :=
  let released := y.releaseWhile (!isOpen ·)
  match released.stack with
  | [] => .error .unexpectedClose
  | _ :: rest => .ok ⟨released.output, rest⟩

def step (y : Yard) (t : Token) : Except Error Yard :=
  match t with
  | .number _ => .ok ⟨t :: y.output, y.stack⟩
  | .symbol lexeme =>
    match precedence? lexeme with
    | some p =>
      let released := y.releaseWhile (yields p)
      .ok ⟨released.output, t :: released.stack⟩
    | none =>
      if lexeme == ['('] then .ok ⟨y.output, t :: y.stack⟩ else y.close

/-- What is left on the stack goes out, unless a parenthesis was never closed. -/
def finish (y : Yard) : Except Error (List Token) :=
  if y.stack.any isOpen then .error .missingClose
  else .ok (y.output.reverse ++ y.stack)

end Yard

def toPostfix (tokens : List Token) : Except Error (List Token) := do
  (← tokens.foldlM Yard.step Yard.empty).finish

/-! ## evaluation -/

inductive Operation where
  | add | sub | mul | div
  deriving DecidableEq, Repr

namespace Operation

def ofLexeme (lexeme : List Char) : Operation :=
  match lexeme with
  | ['+'] => .add
  | ['-'] => .sub
  | ['*'] => .mul
  | _ => .div

def raw : Operation → Float → Float → Float
  | .add, x, y => x + y
  | .sub, x, y => x - y
  | .mul, x, y => x * y
  | .div, x, y => x / y

def apply (op : Operation) (x y : Float) : Except Error Float :=
  if op = .div && y == 0 then .error .divisionByZero
  else
    let z := op.raw x y
    if z.isFinite then .ok z else .error .resultTooLarge

end Operation

/-- One token; the top of the stack is the right operand. -/
def evalStep (stack : List Float) (t : Token) : Except Failure (List Float) :=
  match t with
  | .number lexeme =>
    match numeralValue lexeme with
    | .ok x => .ok (x :: stack)
    | .error f => .error (.fault f)
  | .symbol lexeme =>
    match stack with
    | right :: left :: rest =>
      match (Operation.ofLexeme lexeme).apply left right with
      | .ok x => .ok (x :: rest)
      | .error e => .error (.refused e)
    | _ => .error (.refused .invalidExpression)

def evalPostfix (tokens : List Token) : Except Failure Float := do
  match ← tokens.foldlM evalStep [] with
  | [x] => .ok x
  | _ => .error (.refused .invalidExpression)

end AlgebraDesk.Calculator

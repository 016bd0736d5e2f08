import AlgebraDesk.Calculator.Evaluate

/-!
# A calculator that can fault

The same three stages, step for step, out of operations that are not defined everywhere: a text is
read as a number, an item is taken from a stack, an entry is looked up, a number is divided.  Where
such an operation is not defined it faults, and a symbol that is no operation faults when it is
applied.  A guard, a loop condition or a refusal stands wherever the calculator has one, and nothing
else keeps a fault away.

* `number`, `top`, `pop`, `precedence`, `divide`, `apply`   the operations;
* `tokenize`, `toPostfix`, `evalPostfix`   the stages;
* `evaluate`   the value of a text.
-/

namespace AlgebraDesk.Calculator.Checked

/-! ## operations that may fault -/

def number (lexeme : List Char) : Except Failure Float :=
  match numeralValue lexeme with
  | .ok x => .ok x
  | .error f => .error (.fault f)

section
variable {α : Type}

def top : List α → Except Failure α
  | [] => .error (.fault .outOfBounds)
  | a :: _ => .ok a

/-- The item on top, and what lies below it. -/
def pop : List α → Except Failure (α × List α)
  | [] => .error (.fault .outOfBounds)
  | a :: as => .ok (a, as)

theorem eq_cons_of_pop {as rest : List α} {a : α} (h : pop as = .ok (a, rest)) :
    as = a :: rest := by
  cases as with
  | nil => cases h
  | cons b bs =>
    cases h
    rfl

end

/-- The entry of a symbol in the table of precedences. -/
def precedence (lexeme : List Char) : Except Failure Nat :=
  match precedence? lexeme with
  | some p => .ok p
  | none => .error (.fault .missingKey)

def divide (x y : Float) : Except Failure Float :=
  if y == 0 then .error (.fault .zeroDivisor) else .ok (x / y)

def apply (lexeme : List Char) (x y : Float) : Except Failure Float :=
  match lexeme with
  | ['+'] => .ok (x + y)
  | ['-'] => .ok (x - y)
  | ['*'] => .ok (x * y)
  | ['/'] => if y == 0 then .error (.refused .divisionByZero) else divide x y
  | _ => .error (.fault .wrongKind)

/-! ## tokens -/

def numberToken (lexeme : List Char) : Except Failure Token :=
  if !isNumeral lexeme then .error (.refused (.invalidNumber lexeme))
  else do
    let x ← number lexeme
    if x.isFinite then return .number lexeme else .error (.refused (.numberTooLarge lexeme))

def scan (before : Option Char) (cs : List Char) : Except Failure (List Token) :=
  match cs with
  | [] => .ok []
  | c :: rest =>
    let run := rest.takeWhile isNumberChar
    let after := rest.dropWhile isNumberChar
    if c == '-' && opensOperand before then do
      let token ← numberToken (c :: run)
      return token :: (← scan ((c :: run).getLast?) after)
    else if isSymbolChar c then do
      return .symbol [c] :: (← scan (some c) rest)
    else do
      let token ← numberToken (c :: run)
      return token :: (← scan ((c :: run).getLast?) after)
termination_by cs.length
decreasing_by
  · exact Nat.lt_succ_of_le (length_dropWhile_le _ _)
  · exact Nat.lt_succ_self _
  · exact Nat.lt_succ_of_le (length_dropWhile_le _ _)

def tokenize (text : List Char) : Except Failure (List Token) :=
  match firstForeign? (Text.removeBlanks text) with
  | some (c, index) => .error (.refused (.invalidCharacter c index))
  | none => scan none (Text.removeBlanks text)

/-! ## ordering -/

/-- Whether an operator on the stack goes out before one of precedence `p`. -/
def yields (p : Nat) (t : Token) : Except Failure Bool :=
  if (precedence? t.lexeme).isSome then do
    return decide (p ≤ (← precedence t.lexeme))
  else return false

/-- While the stack is not empty and its top satisfies `go`, the top is popped. -/
def releaseWhile (go : Token → Except Failure Bool) (y : Yard) : Except Failure Yard :=
  if y.stack.isEmpty then .ok y
  else do
    if ← go (← top y.stack) then
      match _h : pop y.stack with
      | .error e => .error e
      | .ok (t, rest) => releaseWhile go ⟨t :: y.output, rest⟩
    else return y
termination_by y.stack.length
decreasing_by
  rw [eq_cons_of_pop _h]
  exact Nat.lt_succ_self _

def close (y : Yard) : Except Failure Yard := do
  let y ← releaseWhile (fun t => return !isOpen t) y
  if y.stack.isEmpty then .error (.refused .unexpectedClose)
  else do
    let (_, rest) ← pop y.stack
    return ⟨y.output, rest⟩

def step (y : Yard) (t : Token) : Except Failure Yard :=
  match t with
  | .number _ => return ⟨t :: y.output, y.stack⟩
  | .symbol lexeme =>
    if (precedence? lexeme).isSome then do
      let p ← precedence lexeme
      let y ← releaseWhile (yields p) y
      return ⟨y.output, t :: y.stack⟩
    else if lexeme == ['('] then return ⟨y.output, t :: y.stack⟩
    else close y

/-- While the stack is not empty, its top is popped; no opening parenthesis may be there. -/
def finish (y : Yard) : Except Failure (List Token) :=
  if y.stack.isEmpty then return y.output.reverse
  else
    match _h : pop y.stack with
    | .error e => .error e
    | .ok (t, rest) =>
      if isOpen t then .error (.refused .missingClose) else finish ⟨t :: y.output, rest⟩
termination_by y.stack.length
decreasing_by
  rw [eq_cons_of_pop _h]
  exact Nat.lt_succ_self _

def toPostfix (tokens : List Token) : Except Failure (List Token) := do
  finish (← tokens.foldlM step Yard.empty)

/-! ## evaluation -/

def evalStep (stack : List Float) (t : Token) : Except Failure (List Float) :=
  match t with
  | .number lexeme => do return (← number lexeme) :: stack
  | .symbol lexeme =>
    if stack.length < 2 then .error (.refused .invalidExpression)
    else do
      let (right, stack) ← pop stack
      let (left, stack) ← pop stack
      let z ← apply lexeme left right
      if z.isFinite then return z :: stack else .error (.refused .resultTooLarge)

def evalPostfix (tokens : List Token) : Except Failure Float := do
  let stack ← tokens.foldlM evalStep []
  if stack.length ≠ 1 then .error (.refused .invalidExpression) else top stack

def evaluate (text : List Char) : Except Failure Float := do
  evalPostfix (← toPostfix (← tokenize text))

end AlgebraDesk.Calculator.Checked

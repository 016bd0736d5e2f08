import AlgebraDesk.Fault

/-!
# Tokens and errors of the calculator

* `Token`    a numeral with its sign, or a symbol; the calculator writes the symbols
             `+ - * / ( )` and can be handed others;
* `Error`    the ways in which an expression is refused, with message and code;
* `Failure`  an error of the calculator, or a fault of a numeral it did not write itself.
-/

namespace AlgebraDesk.Calculator

inductive Token where
  | number (lexeme : List Char)
  | symbol (lexeme : List Char)
  deriving DecidableEq, Repr

def Token.lexeme : Token → List Char
  | .number cs => cs
  | .symbol cs => cs

def Token.isNumber : Token → Bool
  | .number _ => true
  | .symbol _ => false

@[simp] theorem Token.lexeme_number (cs : List Char) : (Token.number cs).lexeme = cs := rfl
@[simp] theorem Token.lexeme_symbol (cs : List Char) : (Token.symbol cs).lexeme = cs := rfl

/-! ## errors -/

inductive Error where
  | invalidCharacter (c : Char) (index : Nat)
  | invalidNumber (lexeme : List Char)
  | numberTooLarge (lexeme : List Char)
  | unexpectedClose
  | missingClose
  | invalidExpression
  | resultTooLarge
  | divisionByZero
  deriving DecidableEq, Repr

/-- The five kinds of refusal. -/
inductive ErrorKind where
  | invalidCharacter | invalidNumberFormat | mismatchedParentheses | invalidExpression
  | divisionByZero
  deriving DecidableEq, Repr

namespace Error

def kind : Error → ErrorKind
  | .invalidCharacter .. => .invalidCharacter
  | .invalidNumber _ | .numberTooLarge _ => .invalidNumberFormat
  | .unexpectedClose | .missingClose => .mismatchedParentheses
  | .invalidExpression | .resultTooLarge => .invalidExpression
  | .divisionByZero => .divisionByZero

def code (e : Error) : String :=
  match e.kind with
  | .invalidCharacter => "INVALID_CHARACTER"
  | .invalidNumberFormat => "INVALID_NUMBER_FORMAT"
  | .mismatchedParentheses => "MISMATCHED_PARENTHESES"
  | .invalidExpression => "INVALID_EXPRESSION"
  | .divisionByZero => "DIVISION_BY_ZERO"

def message : Error → String
  | .invalidCharacter c index =>
    "Invalid character '" ++ c.toString ++ "' at position " ++ toString index
      ++ ". Only numbers and operators + - * / ( ) are allowed."
  | .invalidNumber lexeme =>
    (if lexeme.head? = some '-' then "Invalid negative number: '" else "Invalid number format: '")
      ++ String.ofList lexeme ++ "'."
  | .numberTooLarge lexeme => "Number too large: '" ++ String.ofList (lexeme.take 20) ++ "...'."
  | .unexpectedClose => "Mismatched parentheses: unexpected ')'."
  | .missingClose => "Mismatched parentheses: missing ')'."
  | .invalidExpression => "Invalid expression."
  | .resultTooLarge => "Result is too large."
  | .divisionByZero => "Division by zero."

end Error

inductive Failure where
  | refused (e : Error)
  | fault (f : Fault)
  deriving DecidableEq, Repr

end AlgebraDesk.Calculator

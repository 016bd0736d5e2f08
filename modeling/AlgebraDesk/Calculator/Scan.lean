import AlgebraDesk.Calculator.Token
import AlgebraDesk.Decimal.Numeral
import AlgebraDesk.Text.Blank

/-!
# From text to tokens

Blanks do not count.  Every other character must belong to the alphabet of the calculator, and the
first that does not is reported with its position.  A run of digits and points is a numeral.  A
minus sign at the start, or after `+ - * / (`, is the sign of the numeral that follows it; anywhere
else it is a symbol.

* `isNumeral`   the form of a numeral: a sign, digits, a point, at least one digit at the end;
* `numberToken` a numeral as a token, when it has that form and a finite value;
* `firstForeign?`  the first character outside the alphabet;
* `scan`        the tokens of a text over the alphabet;
* `tokenize`    the tokens of a text.
-/

namespace AlgebraDesk.Calculator

def isNumberChar (c : Char) : Bool := c.isDigit || c == '.'

def isSymbolChar (c : Char) : Bool :=
  c == '+' || c == '-' || c == '*' || c == '/' || c == '(' || c == ')'

def inAlphabet (c : Char) : Bool := isNumberChar c || isSymbolChar c

/-- A minus sign at the start or after one of these belongs to a numeral. -/
def opensOperand : Option Char → Bool
  | none => true
  | some c => c == '+' || c == '-' || c == '*' || c == '/' || c == '('

/-! ## numerals -/

def isUnsignedNumeral (cs : List Char) : Bool :=
  match cs.dropWhile Char.isDigit with
  | [] => !cs.isEmpty
  | '.' :: ds => !ds.isEmpty && ds.all Char.isDigit
  | _ => false

def isNumeral : List Char → Bool
  | '-' :: cs => isUnsignedNumeral cs
  | cs => isUnsignedNumeral cs

/-- The value of a numeral; only a numeral that `scan` did not write can fail to have one. -/
def numeralValue (lexeme : List Char) : Except Fault Float :=
  match Decimal.real? lexeme with
  | some x => .ok x
  | none => .error .badValue

def hasFiniteValue (lexeme : List Char) : Bool :=
  match numeralValue lexeme with
  | .ok x => x.isFinite
  | .error _ => false

def numberToken (lexeme : List Char) : Except Error Token :=
  if !isNumeral lexeme then .error (.invalidNumber lexeme)
  else if !hasFiniteValue lexeme then .error (.numberTooLarge lexeme)
  else .ok (.number lexeme)

/-! ## scanning -/

theorem length_dropWhile_le {α : Type} (p : α → Bool) (cs : List α) :
    (cs.dropWhile p).length ≤ cs.length := by
  induction cs with
  | nil => simp
  | cons c cs ih =>
    rw [List.dropWhile_cons]
    split
    · exact Nat.le_succ_of_le ih
    · exact Nat.le_refl _

/-- The tokens of a text over the alphabet; `before` is the character in front of it. -/
def scan (before : Option Char) (cs : List Char) : Except Error (List Token) :=
  match cs with
  | [] => .ok []
  | c :: rest =>
    let run := rest.takeWhile isNumberChar
    let after := rest.dropWhile isNumberChar
    if c == '-' && opensOperand before then do
      let token ← numberToken (c :: run)
      return token :: (← scan ((c :: run).getLast?) after)
    else if isSymbolChar c then do
      return .symbol [c] :: (← scan (some c) rest)
    else do
      let token ← numberToken (c :: run)
      return token :: (← scan ((c :: run).getLast?) after)
termination_by cs.length
decreasing_by
  · exact Nat.lt_succ_of_le (length_dropWhile_le _ _)
  · exact Nat.lt_succ_self _
  · exact Nat.lt_succ_of_le (length_dropWhile_le _ _)

/-- The first character outside the alphabet, with its position. -/
def firstForeign? (cs : List Char) : Option (Char × Nat) :=
  (cs.zipIdx.find? fun (c, _) => !inAlphabet c)

def tokenize (text : List Char) : Except Error (List Token) :=
  let clean := Text.removeBlanks text
  match firstForeign? clean with
  | some (c, index) => .error (.invalidCharacter c index)
  | none => scan none clean

/-- A text that `tokenize` takes for arithmetic: no foreign character besides blanks. -/
def isArithmetic (text : List Char) : Bool := (Text.removeBlanks text).all inAlphabet

end AlgebraDesk.Calculator

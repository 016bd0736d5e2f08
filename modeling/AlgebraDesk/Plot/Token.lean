import AlgebraDesk.Decimal.Numeral
import AlgebraDesk.Text.Numeral

/-!
# Tokens of a graph expression

A graph expression is written with numbers, names, signs and parentheses.  A name that is neither a
function nor a constant nor the name of a Greek letter is read letter by letter, so `2xy` is a
product of three factors.  Blanks between tokens do not count; a line may end inside parentheses
only.

* `Spelling`, `Constant`, `Function`, `Token`  what the text is made of;
* `spanNumeral`   a number at the start of a text;
* `nameTokens?`   the tokens of a name; none when the name cannot be used;
* `scan`          the tokens of a text.
-/

namespace AlgebraDesk.Plot

open Decimal (Digits digits maxIntegerDigits)

/-- How a number is written: with digits only, with a power of ten but no point, with a point. -/
inductive Spelling where
  | whole | scaled | pointed
  deriving DecidableEq, Repr

inductive Constant where
  | pi | e | i
  deriving DecidableEq, Repr

inductive Function where
  | sin | cos | tan | exp | log | sqrt | abs
  deriving DecidableEq, Repr

inductive Token where
  | numeral (d : Digits) (spelling : Spelling)
  | constant (c : Constant)
  | symbol (name : List Char)
  | function (f : Function)
  | plus | minus | times | over | power | opening | closing
  deriving DecidableEq, Repr

/-! ## numbers -/

theorem length_dropWhile_lt_succ {α : Type} (p : α → Bool) (c : α) (cs : List α) :
    (cs.dropWhile p).length < (c :: cs).length :=
  Nat.lt_succ_of_le (List.dropWhile_sublist p).length_le

/-- `e`, a sign, and digits; nothing when a digit is missing. -/
def spanExponent (cs : List Char) : List Char × List Char :=
  match cs with
  | e :: r =>
    if e == 'e' || e == 'E' then
      let (sign, r) := match r with
        | '+' :: r => (['+'], r)
        | '-' :: r => (['-'], r)
        | r => ([], r)
      let ds := r.takeWhile Char.isDigit
      if ds.isEmpty then ([], cs) else ('e' :: sign ++ ds, r.dropWhile Char.isDigit)
    else ([], cs)
  | [] => ([], [])

/-- A point and the digits after it. -/
def spanFraction (cs : List Char) : List Char × List Char :=
  match cs with
  | '.' :: r => ('.' :: r.takeWhile Char.isDigit, r.dropWhile Char.isDigit)
  | _ => ([], cs)

/-- The digits of a whole number; after zeros no other digit belongs to it. -/
def spanWhole (cs : List Char) : List Char × List Char :=
  match cs with
  | '0' :: r => ('0' :: r.takeWhile (· == '0'), r.dropWhile (· == '0'))
  | _ => (cs.takeWhile Char.isDigit, cs.dropWhile Char.isDigit)

/-- The count of digits of a whole number that is written with a power of ten; none when the number
is not whole. -/
def scaledLength? (d : Digits) : Option Nat :=
  let length := (digits d.significand).length
  if 0 ≤ d.exponent then some (if d.significand = 0 then 1 else length + d.exponent.toNat)
  else if d.significand % Decimal.tenTo (-d.exponent).toNat = 0 then
    some (max 1 (length - (-d.exponent).toNat))
  else none

/-- A number that is whole, and written without a point, has no more digits than an integer may
have. -/
def numeral? (d : Digits) (spelling : Spelling) : Option Token :=
  let length := match spelling with
    | .whole => (digits d.significand).length
    | .scaled => (scaledLength? d).getD 0
    | .pointed => 0
  if maxIntegerDigits < length then none else some (.numeral d spelling)

/-- The number at the start of a text, and what follows it. -/
def spanNumeral (cs : List Char) : Option (Token × List Char) := do
  let ds := cs.takeWhile Char.isDigit
  let (fraction, r) := spanFraction (cs.dropWhile Char.isDigit)
  let (exponent, r) := spanExponent r
  if fraction.isEmpty && exponent.isEmpty then
    let (ds, r) := spanWhole cs
    return (← numeral? (← Decimal.unsigned? ds) .whole, r)
  else
    let d ← Decimal.unsigned? (ds ++ fraction ++ exponent)
    return (← numeral? d (if fraction.isEmpty then .scaled else .pointed), r)

/-! ## names -/

def functionNames : List (String × Function) :=
  [("sin", .sin), ("cos", .cos), ("tan", .tan), ("exp", .exp), ("log", .log), ("sqrt", .sqrt),
   ("abs", .abs), ("Abs", .abs)]

def constantNames : List (String × Constant) := [("pi", .pi), ("E", .e), ("I", .i)]

/-- Names that stand for something other than a number, and so have no place in an expression. -/
def unusableNames : List String := [
  "False", "None", "True", "and", "as", "assert", "async", "await", "break", "class", "continue",
  "def", "del", "elif", "else", "except", "finally", "for", "from", "global", "if", "import", "in",
  "is", "lambda", "nonlocal", "not", "or", "pass", "raise", "return", "try", "while", "with",
  "yield",
  "aiter", "all", "anext", "any", "ascii", "bin", "breakpoint", "callable", "chr", "compile",
  "delattr", "dir", "divmod", "eval", "exec", "format", "getattr", "globals", "hasattr", "hash",
  "hex", "id", "input", "isinstance", "issubclass", "iter", "len", "locals", "max", "min", "next",
  "oct", "open", "ord", "pow", "print", "repr", "round", "setattr", "sorted", "sum", "vars",
  "S", "N", "O", "Q", "Symbol", "Function", "Integer", "Float", "Rational", "Number", "Integral",
  "Derivative", "Sum", "Product", "Limit", "Matrix", "Min", "Max", "Mod", "Poly", "Eq", "Ne", "Lt",
  "Gt", "Le", "Ge", "And", "Or", "Not", "Xor", "Point", "Line", "Circle", "Curve", "Plane", "Ray",
  "acos", "acosh", "acot", "acoth", "acsc", "acsch", "apart", "arg", "asec", "asech", "asin",
  "asinh", "atan", "atan2", "atanh", "beta", "cancel", "cbrt", "ceiling", "collect", "conjugate",
  "cos", "cosh", "cot", "coth", "csc", "csch", "deg", "degree", "det", "diag", "diff", "digamma",
  "discriminant", "div", "evaluate", "expand", "erf", "erfc", "eye", "factor", "factorial",
  "false", "floor", "gamma", "gcd", "im", "integrate", "lcm", "limit", "ln", "nan", "oo",
  "ones", "plot", "prime", "prod", "product", "rad", "re", "real_roots", "rem", "root",
  "roots", "sec", "sech", "series", "sign", "simplify", "sinc", "sinh", "solve", "sqf", "subsets",
  "symbols", "tanh", "test", "together", "trace", "true", "var", "zeros", "zeta", "zoo"]

/-- Greek letters are read as one symbol, in any letter case. -/
def greekNames : List String := [
  "alpha", "beta", "gamma", "delta", "epsilon", "zeta", "eta", "theta", "iota", "kappa", "lamda",
  "mu", "nu", "xi", "omicron", "pi", "rho", "sigma", "tau", "upsilon", "phi", "chi", "psi", "omega",
  "heta", "stigma", "digamma", "koppa", "sampi", "sho", "san"]

def staysWhole (name : List Char) : Bool :=
  name.length ≤ 1 || name.contains '_'
    || greekNames.contains (String.ofList (name.map Char.toLower))

/-- A name read letter by letter; a run of digits is a number. -/
def letterTokens? (cs : List Char) : Option (List Token) :=
  match cs with
  | [] => some []
  | c :: rest =>
    if c.isDigit then do
      let d ← Decimal.unsigned? (c :: rest.takeWhile Char.isDigit)
      let ts ← letterTokens? (rest.dropWhile Char.isDigit)
      some (.numeral d .whole :: ts)
    else if Text.isFigure c || unusableNames.contains c.toString then none
    else do
      let ts ← letterTokens? rest
      match constantNames.lookup c.toString with
      | some k => some (.constant k :: ts)
      | none => some (.symbol [c] :: ts)
termination_by cs.length
decreasing_by
  · exact length_dropWhile_lt_succ _ _ _
  · exact Nat.lt_succ_self _

def nameTokens? (name : List Char) : Option (List Token) :=
  let s := String.ofList name
  match functionNames.lookup s, constantNames.lookup s with
  | some f, _ => some [.function f]
  | none, some k => some [.constant k]
  | none, none =>
    if unusableNames.contains s then none
    else if staysWhole name then some [.symbol name]
    else letterTokens? name

/-! ## the whole text -/

/-- Spaces, tabs and form feeds. -/
def isGap (c : Char) : Bool := c == ' ' || c == '\t' || c.toNat == 0x0C

def signToken? (c : Char) : Option Token :=
  if c == '+' then some .plus
  else if c == '-' then some .minus
  else if c == '*' then some .times
  else if c == '/' then some .over
  else if c == '^' then some .power
  else if c == '(' then some .opening
  else if c == ')' then some .closing
  else none

def startsNumeral (cs : List Char) : Bool :=
  match cs with
  | c :: rest => c.isDigit || (c == '.' && (rest.head?.map Char.isDigit).getD false)
  | [] => false

/-- A step of the scan: the next tokens, and the rest of the text. -/
def scanStep (depth : Nat) (c : Char) (rest : List Char) : Option (List Token × List Char) :=
  if isGap c || (c == '\n' && 0 < depth) then some ([], rest)
  else if startsNumeral (c :: rest) then
    match spanNumeral (c :: rest) with
    | some (t, j :: r) =>
      if j == 'j' || j == 'J' then some ([t, .times, .constant .i], r) else some ([t], j :: r)
    | some (t, []) => some ([t], [])
    | none => none
  else if Text.opensName c then
    (nameTokens? (c :: rest.takeWhile Text.isWordChar)).map
      fun ts => (ts, rest.dropWhile Text.isWordChar)
  else match c, rest with
    | '*', '*' :: r => some ([.power], r)
    | '/', '/' :: _ => none
    | _, _ => (signToken? c).map fun t => ([t], rest)

/-- The depth of parentheses after some tokens. -/
def depthAfter (depth : Nat) (ts : List Token) : Nat :=
  ts.foldl (fun n t => match t with
    | .opening => n + 1
    | .closing => n - 1
    | _ => n) depth

/-- `fuel` is at least the length of the text. -/
def scanFrom : Nat → Nat → List Char → Option (List Token)
  | _, _, [] => some []
  | 0, _, _ => none
  | fuel + 1, depth, c :: rest => do
    let (ts, r) ← scanStep depth c rest
    return ts ++ (← scanFrom fuel (depthAfter depth ts) r)

def scan (cs : List Char) : Option (List Token) := scanFrom cs.length 0 cs

end AlgebraDesk.Plot

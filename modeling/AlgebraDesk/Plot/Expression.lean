import AlgebraDesk.Plot.Token

/-!
# Graph expressions

Sums bind less tightly than products, products less than signs, and signs less than powers; powers
are taken from the right.  Two factors side by side are a product and bind like one that is written
out: `1/2x` is `(1/2)x`.

* `Operation`, `Expression`  the trees;
* `symbols`     the names in a tree other than `x`, sorted;
* `readSum`     a sum at the start of a list of tokens;
* `Expression.read?`  the tree of a whole text.
-/

namespace AlgebraDesk.Plot

open Decimal (Digits)

inductive Operation where
  | add | sub | mul | div | pow
  deriving DecidableEq, Repr

inductive Expression where
  | numeral (d : Digits) (spelling : Spelling)
  | constant (c : Constant)
  | variable
  | symbol (name : String)
  | neg (e : Expression)
  | combine (op : Operation) (left right : Expression)
  | apply (f : Function) (e : Expression)
  deriving DecidableEq, Repr

namespace Expression

def names : Expression → List String
  | .numeral .. | .constant _ | .variable => []
  | .symbol name => [name]
  | .neg e | .apply _ e => e.names
  | .combine _ l r => l.names ++ r.names

def symbols (e : Expression) : List String :=
  e.names.eraseDups.mergeSort fun s t => !(t < s)

def ofSymbol (name : List Char) : Expression :=
  if name = ['x'] then .variable else .symbol (String.ofList name)

end Expression

/-! ## reading -/

/-- A token that a factor can start with, apart from a sign. -/
def Token.opensFactor : Token → Bool
  | .numeral .. | .constant _ | .symbol _ | .function _ | .opening => true
  | _ => false

mutual

/-- A sum at the start of a list; `fuel` bounds the number of steps. -/
def readSum : Nat → List Token → Option (Expression × List Token)
  | 0, _ => none
  | fuel + 1, ts =>
    match readProduct fuel ts with
    | some (e, r) => sumFrom fuel e r
    | none => none

/-- The terms after `e`. -/
def sumFrom : Nat → Expression → List Token → Option (Expression × List Token)
  | 0, _, _ => none
  | fuel + 1, e, .plus :: ts =>
    match readProduct fuel ts with
    | some (f, r) => sumFrom fuel (.combine .add e f) r
    | none => none
  | fuel + 1, e, .minus :: ts =>
    match readProduct fuel ts with
    | some (f, r) => sumFrom fuel (.combine .sub e f) r
    | none => none
  | _ + 1, e, ts => some (e, ts)

def readProduct : Nat → List Token → Option (Expression × List Token)
  | 0, _ => none
  | fuel + 1, ts =>
    match readFactor fuel ts with
    | some (e, r) => productFrom fuel e r
    | none => none

/-- The factors after `e`; one that has no sign in front of it can stand side by side with it. -/
def productFrom : Nat → Expression → List Token → Option (Expression × List Token)
  | 0, _, _ => none
  | fuel + 1, e, .times :: ts =>
    match readFactor fuel ts with
    | some (f, r) => productFrom fuel (.combine .mul e f) r
    | none => none
  | fuel + 1, e, .over :: ts =>
    match readFactor fuel ts with
    | some (f, r) => productFrom fuel (.combine .div e f) r
    | none => none
  | fuel + 1, e, t :: ts =>
    if t.opensFactor then
      match readPower fuel (t :: ts) with
      | some (f, r) => productFrom fuel (.combine .mul e f) r
      | none => none
    else some (e, t :: ts)
  | _ + 1, e, [] => some (e, [])

/-- A power, with signs in front of it. -/
def readFactor : Nat → List Token → Option (Expression × List Token)
  | 0, _ => none
  | fuel + 1, .plus :: ts => readFactor fuel ts
  | fuel + 1, .minus :: ts =>
    match readFactor fuel ts with
    | some (e, r) => some (.neg e, r)
    | none => none
  | fuel + 1, ts => readPower fuel ts

def readPower : Nat → List Token → Option (Expression × List Token)
  | 0, _ => none
  | fuel + 1, ts =>
    match readAtom fuel ts with
    | some (e, .power :: r) =>
      match readFactor fuel r with
      | some (f, r) => some (.combine .pow e f, r)
      | none => none
    | some (e, r) => some (e, r)
    | none => none

/-- A number, a name, a sum in parentheses, or a function applied to one. -/
def readAtom : Nat → List Token → Option (Expression × List Token)
  | 0, _ => none
  | _ + 1, .numeral d spelling :: r => some (.numeral d spelling, r)
  | _ + 1, .constant k :: r => some (.constant k, r)
  | _ + 1, .symbol name :: r => some (.ofSymbol name, r)
  | fuel + 1, .opening :: ts =>
    match readSum fuel ts with
    | some (e, .closing :: r) => some (e, r)
    | _ => none
  | fuel + 1, .function f :: .opening :: ts =>
    match readSum fuel ts with
    | some (e, .closing :: r) => some (.apply f e, r)
    | _ => none
  | _ + 1, _ => none

end

/-- Enough steps for a number of tokens. -/
def fuelFor (tokens : Nat) : Nat := 8 * tokens + 8

def Expression.ofTokens? (ts : List Token) : Option Expression :=
  match readSum (fuelFor ts.length) ts with
  | some (e, []) => some e
  | _ => none

def Expression.read? (cs : List Char) : Option Expression := do
  Expression.ofTokens? (← scan cs)

end AlgebraDesk.Plot

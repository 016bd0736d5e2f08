import AlgebraDesk.Decimal.Numeral
import AlgebraDesk.Log.Note
import AlgebraDesk.Polynomial.Basic
import AlgebraDesk.Text.Blank

/-!
# Reading a polynomial

A polynomial is written as a sum of terms, each a number, or `x`, `x^1` or `x^2` with a number in
front.  Blanks and `*` do not count, and `X` is `x`.  Every sign starts a term; the first term may
do without.  Terms come in any order and those of one degree are added up from the left.

* `normalize`      the text without blanks and stars;
* `splitTerms`     its terms, each with its sign; none when a sign has no term after it;
* `Term.read?`     the parts of one term;
* `Refusal`        why a text is not a polynomial of degree at most two;
* `extract`        the coefficients of a text;
* `coefficient?`   a number in front of a variable, where no number means 1.
-/

set_option linter.unusedVariables false

namespace AlgebraDesk.Polynomial

open Decimal (Digits digitsValue spanDigits)

def normalize (text : List Char) : List Char :=
  ((Text.removeBlanks text).filter (· != '*')).map fun c => if c == 'X' then 'x' else c

/-! ## splitting -/

def isSign (c : Char) : Bool := c == '+' || c == '-'

def isBareSign : List Char → Bool
  | [c] => isSign c
  | _ => false

theorem length_dropWhile_not_sign_lt (c : Char) (cs : List Char) :
    (cs.dropWhile (!isSign ·)).length < (c :: cs).length := by
  have h : (cs.takeWhile (!isSign ·)).length + (cs.dropWhile (!isSign ·)).length = cs.length := by
    rw [← List.length_append, List.takeWhile_append_dropWhile]
  rw [List.length_cons]
  omega

def splitTerms (cs : List Char) : Option (List (List Char)) :=
  match cs with
  | [] => none
  | c :: rest =>
    let term := c :: rest.takeWhile (!isSign ·)
    if isBareSign term then none
    else
      match h : rest.dropWhile (!isSign ·) with
      | [] => some [term]
      | d :: more => (splitTerms (d :: more)).map (term :: ·)
termination_by cs.length
decreasing_by
  rw [← h]
  exact length_dropWhile_not_sign_lt c rest

/-! ## one term -/

/-- What follows the number of a term. -/
inductive Power where
  | constant
  | variable
  | raised (exponent : List Char)
  deriving DecidableEq, Repr

structure Term where
  negative : Bool
  numeral? : Option Digits
  power : Power

/-- A number without sign and exponent at the start of a text, none when there is no digit for it,
and what follows it. -/
def spanNumeral (cs : List Char) : Option Digits × List Char :=
  let (whole, rest) := spanDigits cs
  match whole, rest with
  | [], '.' :: r =>
    match spanDigits r with
    | ([], _) => (none, cs)
    | (frac, rest) => (some ⟨digitsValue frac, -(frac.length : Int)⟩, rest)
  | [], _ => (none, cs)
  | whole, '.' :: r =>
    let (frac, rest) := spanDigits r
    (some ⟨digitsValue (whole ++ frac), -(frac.length : Int)⟩, rest)
  | whole, rest => (some ⟨digitsValue whole, 0⟩, rest)

def readPower? : List Char → Option Power
  | [] => some .constant
  | ['x'] => some .variable
  | 'x' :: '^' :: ds => if !ds.isEmpty && ds.all Text.isDigit then some (.raised ds) else none
  | _ => none

namespace Term

def read? (cs : List Char) : Option Term :=
  let (negative, body) := Decimal.splitSign cs
  let (numeral?, rest) := spanNumeral body
  (readPower? rest).map fun power => ⟨negative, numeral?, power⟩

/-- The signed number of a term, 1 when none is written. -/
def coefficient (t : Term) : Float :=
  match t.numeral? with
  | some d => d.toFloat t.negative
  | none => if t.negative then -1 else 1

end Term

/-! ## the whole text -/

inductive Refusal where
  | noTerms
  | unrecognized (term : List Char)
  | bareSign
  | unsupportedPower (exponent : List Char)
  | notFinite
  deriving DecidableEq, Repr

/-- The sums of a text with one more term. -/
def addTerm (p : Polynomial) (cs : List Char) : Except Refusal Polynomial :=
  match Term.read? cs with
  | none => .error (.unrecognized cs)
  | some t =>
    match t.power with
    | .constant =>
      if t.numeral?.isNone then .error .bareSign
      else .ok { p with c := p.c + t.coefficient }
    | .variable => .ok { p with b := p.b + t.coefficient }
    | .raised exponent =>
      if exponent = ['1'] then .ok { p with b := p.b + t.coefficient }
      else if exponent = ['2'] then .ok { p with a := p.a + t.coefficient }
      else .error (.unsupportedPower exponent)

def extract (text : List Char) : Except Refusal Polynomial :=
  match splitTerms (normalize text) with
  | none => .error .noTerms
  | some terms => do
    let p ← terms.foldlM addTerm zero
    if p.isFinite then .ok p else .error .notFinite

def extract? (text : List Char) : Option Polynomial := (extract text).toOption

/-- What goes to the log when a text is refused; nothing is said about sums out of range. -/
def notes (text : List Char) : List Log.Note :=
  let source := Text.quoted (String.ofList text)
  match extract text with
  | .error .noTerms => [.debug "parser" ("No terms found in " ++ source)]
  | .error (.unrecognized term) =>
    [.debug "parser"
      ("Unrecognized term " ++ Text.quoted (String.ofList term) ++ " in " ++ source)]
  | .error (.unsupportedPower exponent) =>
    [.debug "parser" ("Unsupported power x^" ++ String.ofList exponent ++ " in " ++ source)]
  | .error .bareSign | .error .notFinite | .ok _ => []

/-! ## a coefficient on its own -/

/-- One line feed at the end is not looked at. -/
def dropFinalNewline (cs : List Char) : List Char :=
  if cs.getLast? = some '\n' then cs.dropLast else cs

def coefficient? (text : List Char) : Option Float :=
  match text with
  | [] | ['+'] => some 1
  | ['-'] => some (-1)
  | _ =>
    match Term.read? (dropFinalNewline text) with
    | some ⟨negative, some d, .constant⟩ => some (d.toFloat negative)
    | _ => none

end AlgebraDesk.Polynomial

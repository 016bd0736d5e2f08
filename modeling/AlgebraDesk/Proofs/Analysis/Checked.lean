import AlgebraDesk.Analysis.Analyze
import AlgebraDesk.Value.Display

/-!
# An analysis that can fault

The same analysis, step for step, out of operations that are not defined everywhere: a text is read
as a number, an item is taken from a list, a number is divided, a root is taken, the integer part of
a double is asked for, an integer or a number of places is too long to be written, a handler is
looked up.  Where such an operation is not defined it faults.  A guard stands wherever the analysis
has one, and nothing else keeps a fault away; a handler that faults all the same is answered by
`fallback`.

* `item`, `divide`, `squareRoot`, `number`, `integerPart`, `integerText`, `fixedText`
                              the operations;
* `display`, `polynomialText` numbers and polynomials as text;
* `splitTerms`, `extract`, `equationPolynomial`, `solveLinear`   texts as polynomials;
* `roots`, `vertex`, `ofPolynomial`   lines and parabolas;
* `handlers`, `handle`, `analyze`     one handler for each category, and any text.
-/

namespace AlgebraDesk.Analysis.Checked

open Curve (allReals onAxis)
open Quadratic (ascending clean)
open AlgebraDesk.Polynomial (isBareSign isSign normalize)

/-! ## operations that may fault -/

def item {α : Type} (as : List α) (i : Nat) : Except Fault α :=
  match as[i]? with
  | some a => .ok a
  | none => .error .outOfBounds

def divide (x y : Float) : Except Fault Float :=
  if y == 0 then .error .zeroDivisor else .ok (x / y)

def squareRoot (x : Float) : Except Fault Float :=
  if x < 0 then .error .badValue else .ok x.sqrt

def number (text : List Char) : Except Fault Float :=
  match Decimal.real? text with
  | some x => .ok x
  | none => .error .badValue

/-- An infinity, or what is not a number, has no integer part. -/
def integerPart (x : Float) : Except Fault Int := Value.readInteger (.real x)

/-- An integer with too many digits is not written. -/
def integerText (n : Int) : Except Fault String :=
  let digits := Decimal.digits n.natAbs
  if Decimal.maxIntegerDigits < digits.length then .error .badValue
  else .ok (String.ofList (if n < 0 then '-' :: digits else digits))

def fixedText (places : Int) (x : Float) : Except Fault String :=
  if Value.placesLimit < places then .error .badValue else .ok (Decimal.display places x)

/-! ## numbers as text -/

def display (places : Int) (x : Float) : Except Fault String :=
  if !x.isFinite then .ok (Decimal.display places x)
  else if Double.isWhole x then do integerText (← integerPart x)
  else fixedText places x

def pointText (places : Int) (p : Point) : Except Fault String := do
  return "(" ++ (← display places p.x) ++ ", " ++ (← display places p.y) ++ ")"

def coefficient (places : Int) (x : Float) : Except Fault Coefficient := do
  let numeral := (← display places x.abs).toList
  return ⟨x < 0, x == 0 || numeral == ['0'], x.abs == 1, numeral⟩

def polynomialText (places : Int) (p : Polynomial) : Except Fault String := do
  return String.ofList (Polynomial.displayTerms (← coefficient places p.a)
    (← coefficient places p.b) (← coefficient places p.c))

/-! ## texts as polynomials -/

/-- Whether a term ends at a position behind its first character: the text or a sign does. -/
def endsTerm (cs : List Char) (i : Nat) : Except Fault Bool :=
  if i == cs.length then return true else return isSign (← item cs i)

/-- The terms from the one that begins at `start`, which goes on at least to `i`. -/
def termsFrom (cs : List Char) (start i : Nat) : Except Fault (Option (List (List Char))) :=
  if _h : cs.length < i then return some []
  else do
    if ← endsTerm cs i then
      let term := (cs.drop start).take (i - start)
      if term.isEmpty || isBareSign term then return none
      else return (← termsFrom cs i (i + 1)).map (term :: ·)
    else termsFrom cs start (i + 1)
termination_by cs.length + 1 - i

def splitTerms (cs : List Char) : Except Fault (Option (List (List Char))) :=
  if cs.isEmpty then return none else termsFrom cs 0 1

/-- The signed number of a term, which stands before the variable, 1 when none is written. -/
def termCoefficient (t : Polynomial.Term) (cs : List Char) : Except Fault Float :=
  if t.numeral?.isSome then number (cs.takeWhile (· != 'x'))
  else return if t.negative then -1 else 1

def addTerm (p : Polynomial) (cs : List Char) : Except Fault (Option Polynomial) :=
  match Polynomial.Term.read? cs with
  | none => return none
  | some t =>
    match t.power with
    | .constant =>
      if t.numeral?.isNone then return none
      else do return some { p with c := p.c + (← termCoefficient t cs) }
    | .variable => do return some { p with b := p.b + (← termCoefficient t cs) }
    | .raised exponent => do
      let x ← termCoefficient t cs
      if exponent = ['1'] then return some { p with b := p.b + x }
      else if exponent = ['2'] then return some { p with a := p.a + x }
      else return none

def addTerms (p : Polynomial) : List (List Char) → Except Fault (Option Polynomial)
  | [] => return some p
  | cs :: terms => do
    match ← addTerm p cs with
    | some q => addTerms q terms
    | none => return none

def extract (text : List Char) : Except Fault (Option Polynomial) := do
  match ← splitTerms (normalize text) with
  | none => return none
  | some terms =>
    match ← addTerms .zero terms with
    | some p => return if p.isFinite then some p else none
    | none => return none

def equationPolynomial (text : List Char) : Except Fault (Option Polynomial) := do
  let sides := Text.pieces (· == '=') text
  if sides.length ≠ 2 then return none
  else
    match ← extract (← item sides 0), ← extract (← item sides 1) with
    | some p, some q => return some (p.sub q)
    | _, _ => return none

def solveLinear (text : List Char) : Except Fault (Option Float) := do
  match ← equationPolynomial text with
  | some p =>
    if p.a != 0 || p.b == 0 then return none else return some (clean (← divide (-p.c) p.b))
  | none => return none

/-! ## lines and parabolas -/

def roots (a b d : Float) : Except Fault (List Float) :=
  if d > 0 then do
    let s ← squareRoot d
    return ascending (clean (← divide (-b - s) (2 * a))) (clean (← divide (-b + s) (2 * a)))
  else if d == 0 then do return [clean (← divide (-b) (2 * a))]
  else return []

def vertex (a b c : Float) : Except Fault Point := do
  let x := clean (← divide (-b) (2 * a))
  return ⟨x, clean (a * x * x + b * x + c)⟩

def lineRoots (p : Polynomial) : Except Fault (List Point) :=
  if p.b != 0 then do return [onAxis (clean (← divide (-p.c) p.b))] else return []

def lineText (places : Int) (c : String) (roots : List Point) : Except Fault String :=
  if roots.isEmpty then return "2) No root (horizontal line); y-intercept (0, " ++ c ++ ")."
  else do
    return "2) Find root x=" ++ (← display places (← item roots 0).x) ++ " and y-intercept (0, "
      ++ c ++ ")."

def ofLine (places : Int) (category : Category) (p : Polynomial) : Except Fault Curve := do
  let line := "y=" ++ (← polynomialText places { b := p.b, c := p.c })
  let roots ← lineRoots p
  let intersections := ⟨0.0, clean p.c⟩ :: roots
  let c ← display places p.c
  let second ← lineText places c roots
  return {
    category
    steps := "1) Simplify to linear form " ++ line ++ ". " ++ second
      ++ " 3) Build graph expression " ++ line ++ "."
    summary := if roots.isEmpty then "This is a horizontal line (not a parabola)."
      else "This is a line (not a parabola)."
    graph := ⟨line, intersections⟩
    polynomial := p
    discriminant? := none
    features := {
      domain := allReals
      range := if p.b == 0 then c else allReals
      derivative := ← display places p.b
      symmetry := "None" }
    keyPoints := { roots, intersections } }

def rootsText (places : Int) (roots : List Float) : Except Fault String :=
  if roots.length == 2 then do
    return "roots x=" ++ (← display places (← item roots 0))
      ++ ", x=" ++ (← display places (← item roots 1))
  else if !roots.isEmpty then do
    return "repeated root x=" ++ (← display places (← item roots 0))
  else return "no real roots"

def ofParabola (places : Int) (category : Category) (p : Polynomial) : Except Fault Curve := do
  let d := Quadratic.discriminant p.a p.b p.c
  let vertex ← vertex p.a p.b p.c
  let rs ← roots p.a p.b d
  let roots := rs.map onAxis
  let intercept : Point := ⟨0.0, clean p.c⟩
  let expression := "y=" ++ (← polynomialText places p)
  let upward := p.a > 0
  let height ← display places vertex.y
  return {
    category
    steps := "1) Identify a=" ++ (← display places p.a) ++ ", b=" ++ (← display places p.b)
      ++ ", c=" ++ (← display places p.c) ++ ". 2) Compute D=b^2-4ac=" ++ (← display places d)
      ++ ". 3) Find roots (" ++ (← rootsText places rs) ++ ") and vertex "
      ++ (← pointText places vertex) ++ ". 4) Build graph expression " ++ expression ++ "."
    summary := if upward then "Parabola opens upward (minimum at vertex)."
      else "Parabola opens downward (maximum at vertex)."
    graph := ⟨expression, roots ++ [vertex, intercept]⟩
    polynomial := p
    discriminant? := some d
    features := {
      domain := allReals
      range := if upward then "[" ++ height ++ ", +infinity)"
        else "(-infinity, " ++ height ++ "]"
      derivative := ← polynomialText places { b := 2 * p.a, c := p.b }
      symmetry := "About line x=" ++ (← display places vertex.x) }
    keyPoints := {
      roots
      vertex? := some vertex
      intersections := intercept :: roots
      critical := [vertex] } }

def ofPolynomial (places : Int) (category : Category) (p : Polynomial) : Except Fault Curve :=
  if p.isLinear then ofLine places category p else ofParabola places category p

/-! ## one handler for each category -/

def ofFunction (places : Int) (text : List Char) : Except Fault Analysis := do
  let body := functionBody text
  match ← extract body with
  | some p => return .curve (← ofPolynomial places .function p)
  | none =>
    return .sketch .function unsupportedForm "Rewrite into ax^2+bx+c form."
      { expression := "y=" ++ String.ofList body }

def ofEquation (places : Int) (text : List Char) : Except Fault Analysis :=
  if text.count '=' ≠ 1 then
    return .remark .equation "Equation format is invalid." "Use format like x^2-5x+6=0"
  else do
    match ← equationPolynomial text with
    | some p => return .curve (← ofPolynomial places .equation p)
    | none => return .remark .equation unsupportedForm "Rewrite into ax^2+bx+c=0 form."

def systemSolutions (text : List Char) : Except Fault (Option (Float × Float)) := do
  let lines := Text.inkedLines text
  if lines.length == 2 then
    match ← solveLinear (← item lines 0), ← solveLinear (← item lines 1) with
    | some x, some x' => return some (x, x')
    | _, _ => return none
  else return none

def ofSystem (places : Int) (text : List Char) : Except Fault Analysis := do
  match ← systemSolutions text with
  | some (x, x') =>
    if (x - x').abs < systemTolerance then
      return .system "1) Solve each equation for x. 2) Match solutions. 3) Mark common point."
        ("System solved at x=" ++ (← display places x) ++ ".") [⟨x, 0.0⟩]
    else
      return .remark .system
        ("System recognized; the equations give x=" ++ (← display places x) ++ " and x="
          ++ (← display places x') ++ ", so there is no common solution.")
        "The two equations have no common solution."
  | none =>
    return .remark .system "System recognized; current solver supports simple linear equations in x."
      "Provide two linear equations (single variable x)."

def handlers : List (Category × (Int → List Char → Except Fault Analysis)) :=
  [(.function, ofFunction),
   (.equation, ofEquation),
   (.system, ofSystem),
   (.inequality, fun _ text => return ofInequality text),
   (.derivative, fun _ text => return ofDerivative text),
   (.integral, fun _ _ => return ofIntegral),
   (.other, fun _ _ => return ofOther)]

def handle (places : Int) (text : List Char) (category : Category) : Except Fault Analysis :=
  match handlers.lookup category with
  | some handler => handler places text
  | none => .error .missingKey

/-! ## any text -/

/-- The answer when a handler faults. -/
def fallback (category : Category) : Analysis :=
  .remark category
    ("Recognized as " ++ category.label ++ ", but the analysis failed unexpectedly.")
    "Try rewriting the input in a simpler form."

/-- A missing text counts as an empty one. -/
def analyze (places : Int) (text? : Option (List Char)) : Analysis :=
  let clean := Text.trim (text?.getD [])
  if clean.isEmpty then ofNothing
  else
    let category := Category.classify clean
    match handle places clean category with
    | .ok r => r
    | .error _ => fallback category

end AlgebraDesk.Analysis.Checked

import AlgebraDesk.Analysis.Curve
import AlgebraDesk.Polynomial.Term
import AlgebraDesk.Text.Alphanumeric
import AlgebraDesk.Text.Line

/-!
# Analyzing a text

A text is put into its category and then read the way the category asks for.  What cannot be read is
not an error: the result says what was recognized and how the input could be rewritten.

* `equationPolynomial?`  left side minus right side of an equation;
* `solveLinear?`         the solution of a linear equation;
* `ofFunction`, `ofEquation`, `ofSystem`, `ofInequality`, `ofDerivative`, `ofIntegral`, `ofOther`
                         the analysis of a trimmed text of each category;
* `analyze`              the analysis of any text;
* `notes`                what the analysis has to say to the log.
-/

namespace AlgebraDesk

open Decimal (display)
open AlgebraDesk.Polynomial (extract?)

/-! ## equations -/

/-- The two sides of a text with exactly one equality sign. -/
def equationSides? (text : List Char) : Option (List Char × List Char) :=
  match Text.pieces (· == '=') text with
  | [left, right] => some (left, right)
  | _ => none

def equationPolynomial? (text : List Char) : Option Polynomial := do
  let (left, right) ← equationSides? text
  let p ← extract? left
  let q ← extract? right
  some (p.sub q)

/-- None unless the equation is linear and has exactly one solution. -/
def solveLinear? (text : List Char) : Option Float := do
  let p ← equationPolynomial? text
  if p.a != 0 || p.b == 0 then none else some (Quadratic.clean (-p.c / p.b))

/-- Both sides of an equation are read, whether or not the first succeeds. -/
def equationNotes (text : List Char) : List Log.Note :=
  match equationSides? text with
  | some (left, right) => Polynomial.notes left ++ Polynomial.notes right
  | none => []

namespace Analysis

def unsupportedForm : String :=
  "Recognized input, but parser currently supports quadratic polynomial form."

/-! ## one function for each category -/

/-- The right-hand side of a function: the text without its leading part. -/
def functionBody (text : List Char) : List Char :=
  Text.trim ((Category.dropFunction? text).getD text)

def ofFunction (places : Int) (text : List Char) : Analysis :=
  let body := functionBody text
  match extract? body with
  | some p => .curve (.ofPolynomial places .function p)
  | none =>
    .sketch .function unsupportedForm "Rewrite into ax^2+bx+c form."
      { expression := "y=" ++ String.ofList body }

def ofEquation (places : Int) (text : List Char) : Analysis :=
  match equationSides? text with
  | none => .remark .equation "Equation format is invalid." "Use format like x^2-5x+6=0"
  | some _ =>
    match equationPolynomial? text with
    | some p => .curve (.ofPolynomial places .equation p)
    | none => .remark .equation unsupportedForm "Rewrite into ax^2+bx+c=0 form."

/-- Two solutions closer than this are the same point. -/
def systemTolerance : Float := 1e-9

/-- The solutions of a system of two lines that are both linear equations. -/
def systemSolutions? (text : List Char) : Option (Float × Float) :=
  match Text.inkedLines text with
  | [first, second] => do some (← solveLinear? first, ← solveLinear? second)
  | _ => none

def ofSystem (places : Int) (text : List Char) : Analysis :=
  match systemSolutions? text with
  | some (x, x') =>
    if (x - x').abs < systemTolerance then
      .system "1) Solve each equation for x. 2) Match solutions. 3) Mark common point."
        ("System solved at x=" ++ display places x ++ ".") [⟨x, 0.0⟩]
    else
      .remark .system
        ("System recognized; the equations give x=" ++ display places x ++ " and x="
          ++ display places x' ++ ", so there is no common solution.")
        "The two equations have no common solution."
  | none =>
    .remark .system "System recognized; current solver supports simple linear equations in x."
      "Provide two linear equations (single variable x)."

def ofInequality (text : List Char) : Analysis :=
  .sketch .inequality "1) Move terms to one side. 2) Find boundary values. 3) Test intervals."
    "Inequality recognized." { expression := String.ofList text }

/-- The text after the word `of`, when blanks stand before it and the word ends there. -/
def dropOf? (cs : List Char) : Option (List Char) :=
  if (cs.head?.map Text.isBlank).getD false then
    match Text.dropKeyword? ['o', 'f'] (Text.trimStart cs) with
    | some [] => some []
    | some (c :: rest) => if Text.isWordChar c then none else some (c :: rest)
    | none => none
  else none

/-- What is to be derived: the text without the keyword and a word `of` after it. -/
def derivativeTarget (text : List Char) : List Char :=
  match Category.dropDerivative? text with
  | some rest => Text.trim ((dropOf? rest).getD rest)
  | none => Text.trim text

def ofDerivative (text : List Char) : Analysis :=
  let target := String.ofList (derivativeTarget text)
  .derivative "1) Detect derivative request. 2) Extract target function. 3) Apply derivative rules."
    "Derivative mode detected."
    { expression := if target.isEmpty then "" else "y=" ++ target }
    target
    (if target.isEmpty then "Not provided" else "d/dx(" ++ target ++ ")")

def ofIntegral : Analysis :=
  .remark .integral
    "1) Detect integral request. 2) Identify integrand/bounds. 3) Apply integration rules."
    "Integral mode detected."

def ofOther : Analysis :=
  .remark .other "Input type recognized as Other."
    "Use function/equation/system/inequality/derivative/integral format."

def ofNothing : Analysis :=
  .remark .other "Please provide a mathematical input." "Try: f(x)=x^2-4x+3 or x^2-5x+6=0"

/-! ## any text -/

def ofCategory (places : Int) (text : List Char) : Category → Analysis
  | .function => ofFunction places text
  | .equation => ofEquation places text
  | .system => ofSystem places text
  | .inequality => ofInequality text
  | .derivative => ofDerivative text
  | .integral => ofIntegral
  | .other => ofOther

def analyze (places : Int) (text : List Char) : Analysis :=
  let clean := Text.trim text
  if clean.isEmpty then ofNothing else ofCategory places clean (Category.classify clean)

def functionNotes (text : List Char) : List Log.Note :=
  let body := functionBody text
  Polynomial.notes body ++
    if (extract? body).isSome then []
    else [.debug "solver" ("Function " ++ Text.quoted (String.ofList body)
      ++ " is not a polynomial of degree <= 2")]

def systemNotes (text : List Char) : List Log.Note :=
  match Text.inkedLines text with
  | [first, second] => equationNotes first ++ equationNotes second
  | _ => []

def notes (text : List Char) : List Log.Note :=
  let clean := Text.trim text
  if clean.isEmpty then []
  else Category.notes clean ++
    match Category.classify clean with
    | .function => functionNotes clean
    | .equation =>
      equationNotes clean ++
        if (equationSides? clean).isSome && (equationPolynomial? clean).isNone then
          [.debug "solver" ("Equation " ++ Text.quoted (String.ofList clean)
            ++ " has a side that is not a polynomial")]
        else []
    | .system => systemNotes clean
    | _ => []

end Analysis

end AlgebraDesk

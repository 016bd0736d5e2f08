import AlgebraDesk.Analysis.Analyze
import AlgebraDesk.Answer
import AlgebraDesk.Plot.Canvas
import AlgebraDesk.Plot.Sample
import AlgebraDesk.Plot.Source
import AlgebraDesk.Value.Display

/-!
# Plots

The desk plots expressions, quadratics, analyses and ratios.  A plot is drawn with characters;
drawing an image is not possible, and asking for one is answered before anything is sampled.

* `Style`            characters or image;
* `plotTerm`         the plot of a term, under a label;
* `plotExpression`, `plotQuadratic`, `plotAnalysis`, `plotRatios`  the four plots;
* `sampleTexts`      the sampled points of an expression as they are shown.
-/

namespace AlgebraDesk.Plot

inductive Style where
  | characters | image
  deriving DecidableEq, Repr

def noImage : Answer :=
  .failed "matplotlib not installed. Use ascii=True for ASCII plot." "MISSING_DEPENDENCY"

def drawn (label : String) (d : Drawing) : Answer :=
  .done ("ASCII plot of " ++ label ++ ":\n" ++ d.text) none

def refusal (r : Refusal) : Answer := .failed r.message r.code

/-! ## terms -/

/-- A place that the canvas does not have and an infinity without direction are faults; any other
mishap is reported. -/
def report (label : String) : Except Failure Drawing → Except Fault Answer
  | .ok d => .ok (drawn label d)
  | .error (.refused r) => .ok (refusal r)
  | .error (.mishap .noCell) => .error .outOfBounds
  | .error (.mishap .boundless) => .error .missingKey
  | .error (.mishap m) => .ok (.failed ("Plotting error: " ++ m.message) "PLOT_ERROR")

def drawTerm (t : Symbolic.Term) (marks : List Value) (r : Range) : Except Failure Drawing := do
  let ps ← samples t r
  draw (ps.map fun p => .real p.1) (ps.map fun p => .real p.2) marks standardRows standardColumns

def plotTerm (t : Symbolic.Term) (label : String) (marks : List Value) (r : Range)
    (style : Style) : Except Fault Answer :=
  match style with
  | .image => .ok noImage
  | .characters => report label (drawTerm t marks r)

/-! ## the plots -/

/-- A text that introduces a function is its own label. -/
def labelOf (text : String) : String :=
  let clean := Text.trim text.toList
  if (Text.dropExactly? ['y'] clean).isSome || (Text.dropExactly? "f(x)".toList clean).isSome
  then text else "y=" ++ text

def plotExpression (text : String) (marks : List Value) (r : Range) (style : Style) :
    Except Fault Answer :=
  match Expression.ofText text.toList with
  | .error e => .ok (refusal e)
  | .ok e => plotTerm e.term (labelOf text) marks r style

/-- A truth value has a place in a label, but not in a formula. -/
def coefficient : Value → Except Fault Number
  | .bool _ => .error .missingMember
  | v => v.asNumber

def plotQuadratic (places : Int) (a b c : Value) (r : Range) (style : Style) :
    Except Fault Answer := do
  let label ← Value.displayPolynomial places a b c
  let t := quadraticTerm (← coefficient a) (← coefficient b) (← coefficient c)
  plotTerm t ("y=" ++ label) [] r style

def plotAnalysis (a : Analysis) (style : Style) : Except Fault Answer :=
  if a.graph.expression.isEmpty then
    .ok (.failed (a.category.label ++ " result has no graph expression.") "EMPTY_GRAPH")
  else plotExpression a.graph.expression (a.graph.highlights.map Point.toValue) {} style

/-- The ratio at an index belongs to the term with this number. -/
def firstStep : Nat := 2

def ratioSteps (count : Nat) : List Value :=
  (List.range count).map fun i : Nat => .int (firstStep + i : Nat)

/-- A single ratio is drawn as a line of two points. -/
def ratioPoints : List Value → List Value
  | [v] => [v, v]
  | vs => vs

def plotRatios (ratios : List Value) (style : Style) : Except Fault Answer :=
  if ratios.isEmpty then .ok (.failed "No ratios to plot yet." "EMPTY_GRAPH")
  else match style with
    | .image => .ok noImage
    | .characters =>
      let ys := ratioPoints ratios
      match draw (ratioSteps ys.length) ys [] standardRows standardColumns with
      | .ok d => .ok (drawn "Fn/Fn-1" d)
      | .error (.refused r) => .ok (refusal r)
      | .error (.mishap m) => .error m.fault

/-! ## samples -/

def sampleTexts (places : Int) (text : String) (r : Range) :
    Except Failure (List (String × String)) := do
  let e ← (Expression.ofText text.toList).mapError .refused
  let ps ← samples e.term r
  return ps.map fun p => (Decimal.display places p.1, Decimal.display places p.2)

end AlgebraDesk.Plot

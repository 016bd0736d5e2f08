import AlgebraDesk.Backend.Ranking
import AlgebraDesk.Json.Writer
import AlgebraDesk.Report.Basic
import AlgebraDesk.Report.Printout
import AlgebraDesk.Text.Case
import AlgebraDesk.Value.Display

/-!
# Printing reports

A report is printed as JSON, or in plain words.  Plain words are found from the report as a value,
and a value that lacks what its kind promises is a fault.

* `Format`          JSON or plain;
* `analysisSteps`   the lines of an analysis; what is empty has no line;
* `modelSteps`      the lines of a description of models, a table among them;
* `plain`           the lines of any report in plain words;
* `printValue`, `Report.print`  a report in a format.
-/

namespace AlgebraDesk

namespace Report

inductive Format where
  | json | plain
  deriving DecidableEq, Repr

abbrev Step := Except Fault (List String)

/-- One line with the text of a part. -/
def entryLine (v : Value) (key label : String) : Step := do
  return [label ++ (← v.entry key).shown]

/-! ## analyses -/

/-- A line for every feature that is there. -/
def featureLines (v : Value) : Step := do
  return ((← v.entries).filter fun f => f.2.isFilled).map fun f =>
    Text.capitalizeText f.1 ++ ": " ++ f.2.shown

def pointsText (places : Int) (v : Value) : Except Fault String := do
  return ", ".intercalate (← (← v.elements).mapM (Value.displayPoint places))

/-- A line for a part that is there. -/
def filledLine (v : Value) (key label : String) (text : Value → Except Fault String) : Step := do
  let w ← v.entry key
  if w.isFilled then return [label ++ (← text w)] else return []

/-- The lines that come from one part of a value. -/
def within (v : Value) (key : String) (step : Value → Step) : Step := do step (← v.entry key)

def analysisSteps (places : Int) (v : Value) : List Step :=
  [entryLine v "type" "Type: ",
   within v "analysis" featureLines,
   within v "key_points" fun k => filledLine k "roots" "Roots: " (pointsText places),
   within v "key_points" fun k => filledLine k "vertex" "Vertex: " (Value.displayPoint places),
   within v "key_points" fun k =>
     filledLine k "intersections" "Intersections: " (pointsText places),
   within v "graph" fun g => filledLine g "expression" "Graph: " fun e => .ok e.shown,
   entryLine v "explanation_steps" "Steps: ",
   entryLine v "chat_summary" "Summary: "]

/-! ## models -/

def padRight (width : Nat) (s : String) : String := s.pushn ' ' (width - s.length)

def padLeft (width : Nat) (s : String) : String := "".pushn ' ' (width - s.length) ++ s

def nameWidth : Nat := 24

def scoreWidth : Nat := 10

def tableHeader : String :=
  padRight nameWidth "Model"
    ++ String.join (["Train R2", "Test R2", "Test MAE", "Gap"].map (padLeft scoreWidth))

/-- Only a text and a number can be aligned as a name; a truth value is then a number. -/
def nameCell (v : Value) : Except Fault String :=
  match v with
  | .text s => .ok (padRight nameWidth s)
  | .bool b => .ok (padRight nameWidth (if b then "1" else "0"))
  | .int _ | .real _ => .ok (padRight nameWidth v.shown)
  | _ => .error .wrongKind

def scoreCell (v : Value) (key : String) : Except Fault String := do
  return padLeft scoreWidth (← v.entry key).shown

def modelRow (v : Value) : Step := do
  let name ← nameCell (← v.entry "name")
  let cells ← ["train_r2", "test_r2", "test_mae", "overfit_gap"].mapM (scoreCell v)
  return [name ++ String.join cells]

def bestLine (v : Value) : Step := do
  let best ← v.entry "best_model"
  let size ← v.entry "dataset_size"
  return ["Best model: " ++ best.shown ++ ". Dataset size: " ++ size.shown
    ++ ". Metrics use an 80/20 split."]

/-- The features with the heaviest first. -/
def importanceText (v : Value) : Except Fault String := do
  let weighted ← (← v.entries).mapM fun f => do return (f, ← f.2.asNumber)
  return ", ".intercalate ((Backend.rank weighted).map fun w => w.1.1 ++ "=" ++ w.1.2.shown)

/-- The rows of the table; a part that is no sequence is a fault of its own. -/
def rowSteps (v : Value) : List Step :=
  match v.entry "models" >>= Value.elements with
  | .error f => [.error f]
  | .ok rows => rows.map modelRow

def modelSteps (v : Value) : List Step :=
  [bestLine v, .ok [tableHeader, "".pushn '-' tableHeader.length]] ++ rowSteps v
    ++ [filledLine v "feature_importance" "Feature importance: " importanceText]

/-! ## any report -/

/-- What a bad report says, or that it says nothing. -/
def problemLine (v : Value) : Step := do
  return ["Error: " ++ ((← v.entry? "error").getD .null).shown]

def predictionLine (v : Value) : Step := do
  let score ← v.entry "predicted_score"
  let explanation ← v.entry "explanation"
  return ["Predicted FinalScore: " ++ score.shown ++ ". " ++ explanation.shown]

/-- The lines under a part, when it is there. -/
def stepsWithin (v : Value) (key : String) (steps : Value → List Step) : List Step :=
  match v.entry key with
  | .ok w => steps w
  | .error f => [.error f]

def goodSteps (places : Int) (kind : String) (v : Value) : List Step :=
  match kind with
  | "evaluation" => [entryLine v "result" "Result: "]
  | "analysis" => stepsWithin v "analysis" (analysisSteps places)
  | "classification" => [entryLine v "classification" ""]
  | "quadratic" => [within v "quadratic" fun q => entryLine q "summary" ""]
  | "fibonacci" | "text" => [entryLine v "text" ""]
  | "plot" => [entryLine v "result" ""]
  | "model_info" => stepsWithin v "model_info" modelSteps
  | "prediction" => [within v "prediction" predictionLine]
  | _ => [.ok [v.shown]]

/-- A kind that is no text is none of the desk's kinds. -/
def kindOf (v : Value) : String :=
  match v.field? "type" with
  | some (.text kind) => kind
  | _ => ""

def plain (places : Int) (v : Value) : Printout :=
  match v.entry? "ok" with
  | .error f => ⟨"", some f⟩
  | .ok ok? =>
    if (ok?.map Value.isFilled).getD false then .ofSteps (goodSteps places (kindOf v) v)
    else .ofStep (problemLine v)

/-- Spaces before an item, for each level. -/
def indentation : Nat := 2

def printValue (format : Format) (places : Int) (v : Value) : Printout :=
  match format with
  | .json => .line (Json.write (.indented indentation) v)
  | .plain => plain places v

/-- Features are named in plain words as they are shown, and in JSON as keys. -/
def print (format : Format) (places : Int) (r : Report) : Printout :=
  match format with
  | .json => printValue .json places (r.toValueWith Backend.Info.keyText)
  | .plain => printValue .plain places (r.toValueWith Value.shown)

end Report

end AlgebraDesk

import AlgebraDesk.Analysis.Analyze
import AlgebraDesk.Calculator.Evaluate
import AlgebraDesk.Plot.Curve
import AlgebraDesk.Report.Basic
import AlgebraDesk.Session
import AlgebraDesk.Text.Line

/-!
# Reports of the tools

The report that each tool gives for a text, and what it tells the log on the way.  The options of
the command line and the commands of the console use the same reports.

* `evaluate`, `analyze`, `classify`, `draw`   the tools that read a text;
* `ofOutcome`, `ofModels`, `ofPrediction`     the outcomes of a session and of the backend;
* `analyzeNotes`, `classifyNotes`             what goes to the log.
-/

namespace AlgebraDesk.Report

/-! ## tools that read a text -/

/-- A text in which two lines may be typed as one. -/
def typed (text : String) : List Char := Text.breakLines text.toList

def evaluate (places : Int) (text? : Option String) : Except Fault Report := do
  return .evaluation (← Calculator.answer places text?)

def analyze (places : Int) (text : String) : Report :=
  .analysis (Analysis.analyze places (typed text))

def analyzeNotes (text : String) : List Log.Note := Analysis.notes (typed text)

def classify (text : String) : Report := .classification (Category.classify (typed text))

def classifyNotes (text : String) : List Log.Note := Category.notes (typed text)

/-- What an analysis has to draw; the text itself when it has nothing. -/
def draw (places : Int) (text : String) (style : Plot.Style) : Except Fault Report := do
  let a := Analysis.analyze places (typed text)
  if a.graph.expression.isEmpty then
    return .plot (← Plot.plotExpression (String.ofList (typed text)) [] {} style)
  else return .plot (← Plot.plotAnalysis a style)

/-! ## outcomes -/

def ofFailure : Session.Failure → Except Fault Report
  | .quadratic e => .ok (.problem e.message (some e.code))
  | .fibonacci e => .ok (.problem e.message (some e.code))
  | .fault f => .error f

/-- A warning is a problem without a code. -/
def ofOutcome : Except Session.Failure Session.Outcome → Except Fault Report
  | .ok (.solved s) => .ok (.quadratic s)
  | .ok (.said s) => .ok (.text s)
  | .ok (.graded .warn s) => .ok (.problem s none)
  | .ok (.graded _ s) => .ok (.text s)
  | .ok .nothing => .ok (.text "")
  | .error e => ofFailure e

def modelsMessage : String := "Could not load Flask API data. Check backend URL and status."

def badFeatures : Report :=
  .problem Backend.invalidFeaturesMessage (some Backend.invalidFeaturesCode)

/-- Why the models could not be had does not matter for the message. -/
def ofModels : Except Backend.Failure Backend.Info → Except Fault Report
  | .ok info => .ok (.models info)
  | .error (.refused e) => .ok (.problem modelsMessage (some e.code))
  | .error .invalidFeatures => .ok badFeatures
  | .error (.fault f) => .error f

/-- For the log, when the reason can be said. -/
def modelsNotes : Except Backend.Failure Backend.Info → List Log.Note
  | .error (.refused e) => match e.text with
    | .ok reason => [.warning "cli" ("Model info unavailable: " ++ reason) []]
    | .error _ => []
  | _ => []

def ofPrediction : Except Backend.Failure Backend.Prediction → Except Fault Report
  | .ok p => .ok (.prediction p)
  | .error (.refused e) => do
    return .problem ("Prediction failed: " ++ (← e.text)) (some e.code)
  | .error .invalidFeatures => .ok badFeatures
  | .error (.fault f) => .error f

end AlgebraDesk.Report

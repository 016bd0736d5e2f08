import AlgebraDesk.Console.Command
import AlgebraDesk.Report.Print
import AlgebraDesk.Report.Tools

/-!
# The desk at work

A desk has a session, the replies that the backend will give, and the draws that chance will make.
A command takes what it needs of these and gives a response; most commands leave the desk as it is.

* `Setting`    what holds for the whole run: precision, backend and format;
* `Desk`       what commands change;
* `Response`, `Outcome`  what comes of a command;
* `perform`    a command.
-/

namespace AlgebraDesk.Console

structure Setting where
  places : Int := 4
  client : Backend.Client := .standard
  format : Report.Format := .plain

structure Desk where
  session : Session := {}
  replies : List Backend.Reply := []
  draws : List Number := []

inductive Response where
  | report (r : Report)
  | lines (ls : List String)

structure Outcome where
  response : Except Fault Response
  desk : Desk
  requests : List Backend.Request := []
  notes : List Log.Note := []

namespace Response

def isGood : Response → Bool
  | .report r => r.isGood
  | .lines _ => true

def print (s : Setting) : Response → Printout
  | .report r => r.print s.format s.places
  | .lines ls => .lines ls

end Response

namespace Outcome

/-- A report that changes nothing. -/
def keep (d : Desk) (report : Except Fault Report) : Outcome :=
  { response := report.map .report, desk := d }

/-- The same with notes for the log. -/
def withNotes (o : Outcome) (notes : List Log.Note) : Outcome := { o with notes }

/-- What an action of the session gives. -/
def ofAction (d : Desk) (r : Except Session.Failure Session.Outcome × Session) : Outcome :=
  { response := (Report.ofOutcome r.1).map .report, desk := { d with session := r.2 } }

def act (s : Setting) (d : Desk) (a : Session.Action) : Outcome :=
  ofAction d (d.session.act s.places a)

def isGood (o : Outcome) : Bool :=
  match o.response with
  | .ok r => r.isGood
  | .error _ => false

def print (s : Setting) (o : Outcome) : Printout :=
  match o.response with
  | .ok r => r.print s
  | .error f => ⟨"", some f⟩

end Outcome

namespace Desk

/-! ## numbers in an argument -/

/-- Exactly three numbers. -/
def threeReals? (text : String) : Option (Float × Float × Float) :=
  match (Text.words text.toList).map Decimal.real? with
  | [some x, some y, some z] => some (x, y, z)
  | _ => none

/-- An integer; without a text, the usual number of terms. -/
def termCount? (text : String) : Option Int :=
  if text.isEmpty then some Fibonacci.defaultTerms else Decimal.integer? text.toList

/-! ## quadratics and sequences -/

def coefficientsMissing : Report :=
  .problem Quadratic.Error.invalidCoefficients.message none

def solve (s : Setting) (d : Desk) (text : String) : Outcome :=
  let word := Text.lowerText text
  if word == "example" then .act s d .solveExample
  else if word == "reset" then .act s d .solveReset
  else match threeReals? text with
    | some (a, b, c) => .act s d (.solve (.real a) (.real b) (.real c))
    | none => .keep d (.ok coefficientsMissing)

def countRefused : Report := .problem Fibonacci.Error.invalidCount.message none

/-- Whether the count is no number or out of range, the problem is the same. -/
def generate (s : Setting) (d : Desk) (text : String) : Outcome :=
  match termCount? text with
  | none => .keep d (.ok countRefused)
  | some n => match d.session.act s.places (.generate (.int n)) with
    | (.error (.fibonacci _), _) => .keep d (.ok countRefused)
    | r => .ofAction d r

/-- The visible terms and all steps that follow. -/
def playLines (p : Fibonacci.Playback) : Except Fault (List String) := do
  return (← p.render) :: (← p.remaining)

/-- Without a playback, the usual one is started. -/
def playback (s : Setting) (d : Desk) : Session :=
  match d.session.playback? with
  | some _ => d.session
  | none => (d.session.act s.places (.generate (.int Fibonacci.defaultTerms))).2

def play (s : Setting) (d : Desk) : Outcome :=
  let session := playback s d
  match session.playback? with
  | none => { response := .error .missingMember, desk := d }
  | some p =>
    { response := (playLines p).map .lines
      desk := { d with session := { session with playback? := some p.toEnd } } }

/-! ## challenges -/

/-- The next draw; what chance does not give is 0. -/
def draw (d : Desk) : Number × Desk := (d.draws.headD (.int 0), { d with draws := d.draws.tail })

/-- A draw as an index. -/
def indexOf : Number → Int
  | .int n => n
  | .real x => (Double.truncate? x).getD 0

def challenge (d : Desk) : Outcome :=
  let (number, d) := draw d
  let (index, d) := draw d
  let c := Challenge.ofDraws number (indexOf index)
  { response := .ok (.report (.text c.question))
    desk := { d with session := { d.session with challenge? := some c } }
    notes := [.debug "session" ("New " ++ c.kind ++ " challenge")] }

/-! ## the backend -/

def models (s : Setting) (d : Desk) : Outcome :=
  let x := s.client.modelInfo d.replies
  let session := match x.result with
    | .ok info => { d.session with modelInfo? := some info }
    | .error _ => d.session
  { response := (Report.ofModels x.result).map .report
    desk := { d with session, replies := x.rest }
    requests := x.requests
    notes := x.notes ++ Report.modelsNotes x.result }

def predictReals (s : Setting) (d : Desk) (study sleep tests : Float) : Outcome :=
  let x := s.client.predict (.real study) (.real sleep) (.real tests) d.replies
  { response := (Report.ofPrediction x.result).map .report
    desk := { d with replies := x.rest }
    requests := x.requests
    notes := x.notes }

def featuresMissing : Report := .problem Backend.invalidFeaturesMessage none

def predict (s : Setting) (d : Desk) (text : String) : Outcome :=
  match threeReals? text with
  | some (x, y, z) => predictReals s d x y z
  | none => .keep d (.ok featuresMissing)

/-! ## any command -/

def plot (s : Setting) (d : Desk) (style : Plot.Style) (text : String) : Outcome :=
  (Outcome.keep d (Report.draw s.places text style)).withNotes (Report.analyzeNotes text)

def perform (s : Setting) (d : Desk) : Command → Outcome
  | .evaluate text =>
    (Outcome.keep d (Report.evaluate s.places (some text))).withNotes (Calculator.notes text)
  | .analyze text =>
    (Outcome.keep d (.ok (Report.analyze s.places text))).withNotes (Report.analyzeNotes text)
  | .classify text =>
    (Outcome.keep d (.ok (Report.classify text))).withNotes (Report.classifyNotes text)
  | .solve text => solve s d text
  | .generate text => generate s d text
  | .next => .act s d .next
  | .play => play s d
  | .explain => .act s d .explain
  | .challenge => challenge d
  | .answer text => .act s d (.answer text)
  | .plot text => plot s d .characters text
  | .models => models s d
  | .predict text => predict s d text

end Desk

end AlgebraDesk.Console

import AlgebraDesk.CommandLine.Help
import AlgebraDesk.CommandLine.Options
import AlgebraDesk.Console.Turn
import AlgebraDesk.Health
import AlgebraDesk.Log.Record

/-!
# The program

A run of the program does what its options ask for: it shows its version or its help, checks its
health, gives the reports for one option, or, when no option asks for anything, opens the console.
When several options ask for something, the first in a fixed order is answered.

* `Surroundings`  what a run finds: typed lines, replies, draws, components;
* `settingOf`     what the options say about precision, backend and format;
* `outcomes?`     what the options ask for, apart from the console;
* `Transcript`    what a run writes, sends and notes, and how it ends;
* `Plan`, `plan`  what a command line leads to;
* `run`           the transcript of a command line.
-/

namespace AlgebraDesk.Program

open CommandLine (Options)
open Console (Desk Outcome Setting)

structure Surroundings where
  lines : List (List Char) := []
  replies : List Backend.Reply := []
  draws : List Number := []
  places : Int := 4
  components : Health.Component → Health.Presence := .unknown

def Surroundings.desk (w : Surroundings) : Desk := { replies := w.replies, draws := w.draws }

/-! ## settings -/

/-- A negative precision is not taken. -/
def placesOf (usual : Int) (precision? : Option Int) : Int :=
  match precision? with
  | some n => if 0 ≤ n then n else usual
  | none => usual

def clientOf : Option String → Backend.Client
  | some url => .ofUrl url Backend.Client.defaultTimeout
  | none => .standard

def settingOf (usual : Int) (o : Options) : Setting :=
  { places := placesOf usual o.precision?, client := clientOf o.apiBase?, format := o.format }

def thresholdOf (o : Options) : Nat := (o.level?.map (·.weight)).getD Log.usualWeight

/-! ## what an option asks for -/

def wantsPlot (o : Options) : Bool := o.ascii || o.output?.isSome

def styleOf (o : Options) : Plot.Style := if o.ascii then .characters else .image

/-- The solution; a plot follows it when one is asked for and no other text is to be plotted. -/
def quadratic (s : Setting) (d : Desk) (o : Options) (k : Float × Float × Float) :
    List Outcome :=
  let (a, b, c) := (Value.real k.1, Value.real k.2.1, Value.real k.2.2)
  let solved := Outcome.act s d (.solve a b c)
  if solved.isGood && o.plot?.isNone && wantsPlot o then
    [solved, .keep d ((Plot.plotQuadratic s.places a b c {} (styleOf o)).map .plot)]
  else [solved]

/-- The terms, one step after the other. -/
def reveal (s : Setting) (d : Desk) (count : Value) : Outcome :=
  match d.session.act s.places (.generate count) with
  | (.ok _, session) => Desk.play s { d with session }
  | r => .ofAction d r

/-- The sentence that shows all terms. -/
def sentenceOf (r : Fibonacci.Run) : Except Fault String :=
  (Fibonacci.Playback.complete (Fibonacci.values r.terms)).render

def terms (s : Setting) (d : Desk) (o : Options) (count : Value) : List Outcome :=
  if o.play then [reveal s d count]
  else match Fibonacci.generate count with
    | .error e => [.keep d (Report.ofFailure (.ofFibonacci e))]
    | .ok r =>
      .keep d ((sentenceOf r).map (.fibonacci r)) ::
        if wantsPlot o then
          [.keep d ((Plot.plotRatios (r.ratios.map .real) (styleOf o)).map .plot)]
        else []

/-- None when the console is to be opened. -/
def outcomes? (s : Setting) (d : Desk) (o : Options) : Option (List Outcome) :=
  match o.evaluate?, o.analyze?, o.classify?, o.quadratic?, o.fib?, o.plot? with
  | some text, _, _, _, _, _ => some [d.perform s (.evaluate text)]
  | none, some text, _, _, _, _ => some [d.perform s (.analyze text)]
  | none, none, some text, _, _, _ => some [d.perform s (.classify text)]
  | none, none, none, some k, _, _ => some (quadratic s d o k)
  | none, none, none, none, some n, _ => some (terms s d o (.int n))
  | none, none, none, none, none, some text => some [Desk.plot s d (styleOf o) text]
  | none, none, none, none, none, none =>
    if o.modelInfo then some [Desk.models s d]
    else o.predict?.map fun k => [Desk.predictReals s d k.1 k.2.1 k.2.2]

/-! ## transcripts -/

/-- The status counts only when no fault ended the run. -/
structure Transcript where
  printed : Printout
  status : Nat := 0
  requests : List Backend.Request := []
  notes : List Log.Note := []

namespace Transcript

def ofLines (ls : List String) (status : Nat) : Transcript := { printed := .lines ls, status }

/-- The status follows the last response. -/
def statusOf (os : List Outcome) : Nat :=
  match os.getLast? with
  | some o => if o.isGood then 0 else 1
  | none => 0

def ofOutcomes (s : Setting) (os : List Outcome) : Transcript :=
  { printed := os.foldl (fun p o => p ++ o.print s) .empty
    status := statusOf os
    requests := os.flatMap (·.requests)
    notes := os.flatMap (·.notes) }

def ofScript (s : Setting) (d : Desk) (script : Console.Script) : Transcript :=
  let turns := Console.run s d script.entries
  { printed := (⟨Console.greeting, none⟩ ++ turns.foldl (fun p t => p ++ t.printed) .empty)
      ++ ⟨script.ending.text, none⟩
    requests := turns.flatMap (·.requests)
    notes := turns.flatMap (·.notes) }

end Transcript

/-! ## runs -/

/-- What a command line leads to. -/
inductive Plan where
  | finished (t : Transcript)
  | console (s : Setting)

/-- The status of a command line that cannot be read. -/
def refusedStatus : Nat := 2

def planOptions (w : Surroundings) (o : Options) : Plan :=
  let s := settingOf w.places o
  if o.version then .finished (.ofLines [Console.programVersion] 0)
  else if o.healthCheck then
    let (lines, status) := Health.check s.places w.components
    .finished (.ofLines lines status)
  else match outcomes? s w.desk o with
    | some os => .finished (.ofOutcomes s os)
    | none => .console s

/-- What a command line leads to, and the weight of the notes that go to the log. -/
def plan (w : Surroundings) (args : List String) : Plan × Nat :=
  match Options.read args with
  | .error .help => (.finished (.ofLines CommandLine.helpLines 0), Log.usualWeight)
  | .error .refused => (.finished (.ofLines [] refusedStatus), Log.usualWeight)
  | .ok o => (planOptions w o, thresholdOf o)

def complete (w : Surroundings) : Plan → Transcript
  | .finished t => t
  | .console s => .ofScript s w.desk (Console.Script.read w.lines)

/-- The transcript of a run, with only the notes that go to the log. -/
def run (w : Surroundings) (args : List String) : Transcript :=
  let (p, threshold) := plan w args
  let t := complete w p
  { t with notes := Log.kept threshold t.notes }

end AlgebraDesk.Program

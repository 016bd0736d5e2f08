import AlgebraDesk.Backend.Info
import AlgebraDesk.Challenge
import AlgebraDesk.Fibonacci.Playback
import AlgebraDesk.Quadratic

/-!
# Sessions

A session remembers what one user did last: the quadratic solved, the playback and how far it is,
the open challenge, and the description of the models.  An action either succeeds and changes at
most the one part that it is about, or fails and changes nothing.

* `Session`   what is remembered;
* `explain`   the latest results in plain words;
* `Action`, `Outcome`, `Failure`  what a user can do, what comes of it, and why it can fail;
* `perform`   one action;
* `act`, `run`  the same for a session that goes on after a failure.
-/

namespace AlgebraDesk

open Fibonacci (Playback)

structure Session where
  quadratic? : Option Quadratic.Solution := none
  playback? : Option Playback := none
  challenge? : Option Challenge := none
  modelInfo? : Option Backend.Info := none

namespace Session

/-! ## explaining -/

def explainQuadratic (places : Int) (s : Quadratic.Solution) : String :=
  "Quadratic: your parabola " ++ (if s.a > 0 then "opens upward" else "opens downward")
    ++ ", with " ++ s.rootKind.text ++ ". Vertex at " ++ s.vertex.display places ++ "."

/-- The golden ratio with three places. -/
def goldenText : String := "1.618"

/-- The latest ratio, once three terms are visible. -/
def explainPlayback (p : Playback) : Except Fault (Option String) :=
  if p.shown < 3 then .ok none
  else do
    match (← p.ratios).getLast? with
    | none => .error .outOfBounds
    | some x => return some ("Fibonacci: the ratio Fn/Fn-1 is approaching " ++ goldenText
        ++ ". Current estimate: " ++ Playback.ratioText x ++ ".")

def nothingToExplain : String :=
  "No recent math result to explain yet. Run Quadratic Solve or Fibonacci Generate first."

def explain (places : Int) (s : Session) : Except Fault String := do
  let ratio? ← match s.playback? with
    | some p => explainPlayback p
    | none => .ok none
  let lines := (s.quadratic?.map (explainQuadratic places)).toList ++ ratio?.toList
  return if lines.isEmpty then nothingToExplain else " ".intercalate lines

/-! ## actions -/

inductive Action where
  | solve (a b c : Value)
  | solveExample
  | solveReset
  | generate (count : Value)
  | next
  | forgetPlayback
  | explain
  | answer (given : String)
  | draw (number : Number) (index : Int)
  | setChallenge (c : Challenge)

inductive Outcome where
  | solved (s : Quadratic.Solution)
  | said (text : String)
  | graded (verdict : Challenge.Verdict) (text : String)
  | nothing

inductive Failure where
  | quadratic (e : Quadratic.Error)
  | fibonacci (e : Fibonacci.Error)
  | fault (f : Fault)
  deriving DecidableEq, Repr

def Failure.ofQuadratic : Quadratic.Failure → Failure
  | .refused e => .quadratic e
  | .fault f => .fault f

def Failure.ofFibonacci : Fibonacci.Failure → Failure
  | .refused e => .fibonacci e
  | .fault f => .fault f

def exampleCoefficients : Value × Value × Value := (.real 1.0, .real (-3.0), .real 2.0)

def resetCoefficients : Value × Value × Value := (.real 1.0, .real (-5.0), .real 6.0)

def solve (places : Int) (s : Session) (k : Value × Value × Value) :
    Except Failure (Outcome × Session) := do
  let r ← (Quadratic.solveValues places k.1 k.2.1 k.2.2).mapError .ofQuadratic
  return (.solved r, { s with quadratic? := some r })

def generate (s : Session) (count : Value) : Except Failure (Outcome × Session) := do
  let r ← (Fibonacci.generate count).mapError .ofFibonacci
  let p := Playback.start (Fibonacci.values r.terms)
  let text ← p.render.mapError .fault
  return (.said text, { s with playback? := some p })

/-- The next step; without a playback, the start of the usual one. -/
def next (s : Session) : Except Failure (Outcome × Session) :=
  match s.playback? with
  | none => generate s (.int Fibonacci.defaultTerms)
  | some p => do
    let (text, p) ← p.advance.mapError .fault
    return (.said text, { s with playback? := some p })

def perform (places : Int) (s : Session) : Action → Except Failure (Outcome × Session)
  | .solve a b c => solve places s (a, b, c)
  | .solveExample => solve places s exampleCoefficients
  | .solveReset => solve places s resetCoefficients
  | .generate count => generate s count
  | .next => next s
  | .forgetPlayback => .ok (.nothing, { s with playback? := none })
  | .explain => do
    let text ← (explain places s).mapError .fault
    return (.said text, s)
  | .answer given =>
    let (verdict, text) := Challenge.grade s.challenge? given
    .ok (.graded verdict text, s)
  | .draw number index =>
    .ok (.nothing, { s with challenge? := some (.ofDraws number index) })
  | .setChallenge c => .ok (.nothing, { s with challenge? := some c })

/-! ## going on -/

/-- The session after an action; a failure leaves it as it was. -/
def act (places : Int) (s : Session) (a : Action) : Except Failure Outcome × Session :=
  match perform places s a with
  | .ok (o, s') => (.ok o, s')
  | .error e => (.error e, s)

/-- The outcome of each action, with the session after it. -/
def run (places : Int) (s : Session) : List Action → List (Except Failure Outcome × Session)
  | [] => []
  | a :: as => act places s a :: run places (act places s a).2 as

end Session

end AlgebraDesk

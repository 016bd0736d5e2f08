import AlgebraDesk.Analysis.Analyze
import AlgebraDesk.Calculator.Evaluate
import AlgebraDesk.Fibonacci.Sequence
import AlgebraDesk.Value.Notation

/-!
# Health check

The check looks for the components that the desk may be combined with, then tries out its own
tools.  A component that is required and missing, and a tool that gives a wrong result, each count
as a failure.

* `Component`, `components`  what is looked for;
* `Presence`       what was found;
* `trials`         the tools with whether they work;
* `Finding`, `findings`  the lines of the check, and which of them are failures;
* `check`          all lines, and the exit status.
-/

namespace AlgebraDesk.Health

/-! ## components -/

structure Component where
  name : String
  label : String
  required : Bool

def components : List Component :=
  [⟨"sympy", "SymPy", true⟩, ⟨"numpy", "NumPy", true⟩, ⟨"requests", "Requests", true⟩,
   ⟨"matplotlib", "Matplotlib", false⟩]

inductive Presence where
  | present (version? : Option Value)
  | missing (reason : String)

/-- What is found when nothing is known about a component. -/
def Presence.unknown (c : Component) : Presence :=
  .missing ("No module named " ++ Text.quoted c.name)

/-! ## findings -/

structure Finding where
  line : String
  failed : Bool

def Finding.fine (text : String) : Finding := ⟨"[OK] " ++ text, false⟩

def Finding.failure (text : String) : Finding := ⟨"[FAIL] " ++ text, true⟩

def Component.finding (c : Component) : Presence → Finding
  | .present version? =>
    .fine (c.label ++ " " ++ (version?.map Value.shown).getD "unknown version")
  | .missing reason =>
    if c.required then .failure (c.label ++ ": " ++ reason)
    else ⟨"[WARN] " ++ c.label ++ " not installed; use --ascii for plots", false⟩

/-! ## trials -/

def calculatorWorks (places : Int) : Bool :=
  match Calculator.answer places (some "2+3*4") with
  | .ok (.done result _) => result == "14"
  | _ => false

def analysisWorks (places : Int) : Bool :=
  let roots := (Analysis.analyze places "x^2-3x+2=0".toList).keyPoints.roots
  match roots with
  | [p, q] => p.x == 1.0 && p.y == 0.0 && q.x == 2.0 && q.y == 0.0
  | _ => false

def sequenceWorks : Bool := (Fibonacci.terms 10).getLast? == some 34

def trials (places : Int) : List (String × Bool) :=
  [("calculator: 2+3*4 = 14", calculatorWorks places),
   ("analysis: x^2-3x+2=0 has roots 1 and 2", analysisWorks places),
   ("fibonacci: 10 terms end with 34", sequenceWorks)]

def trialFinding (t : String × Bool) : Finding := if t.2 then .fine t.1 else .failure t.1

/-! ## the check -/

def findings (places : Int) (look : Component → Presence) : List Finding :=
  (components.map fun c => c.finding (look c)) ++ (trials places).map trialFinding

def rule : String := "".pushn '=' 50

def verdict (failures : Nat) : String :=
  if failures = 0 then "All checks passed." else toString failures ++ " check(s) failed."

def check (places : Int) (look : Component → Presence) : List String × Nat :=
  let fs := findings places look
  let failures := (fs.filter (·.failed)).length
  (["Running MathExplorer health check...", rule] ++ fs.map (·.line) ++ [rule, verdict failures],
    if failures = 0 then 0 else 1)

end AlgebraDesk.Health

import AlgebraDesk.Log.Note
import AlgebraDesk.Text.Blank
import AlgebraDesk.Text.Keyword

/-!
# Categories of input

A text that a user types is put into a category before it is analyzed.  The rules are asked in
order and the first that applies decides: two lines with an equality sign are a system whatever else
they hold, and a leading keyword wins over any sign that follows it.

* `Category`          the categories and their labels;
* `dropDerivative?`, `startsWithIntegral`, `dropFunction?`  the leading parts that rules look for;
* `hasComparison`     whether a comparison sign occurs;
* `rules`, `ofTrimmed`, `classify`  the rules, and the category they give.
-/

namespace AlgebraDesk

inductive Category where
  | function | equation | system | inequality | derivative | integral | other
  deriving DecidableEq, Repr

namespace Category

def label : Category → String
  | .function => "Function"
  | .equation => "Equation"
  | .system => "System of equations"
  | .inequality => "Inequality"
  | .derivative => "Derivative"
  | .integral => "Integral"
  | .other => "Other"

def all : List Category :=
  [.function, .equation, .system, .inequality, .derivative, .integral, .other]

def ofLabel? (s : String) : Option Category := all.find? (·.label == s)

/-! ## leading parts -/

open Text (dropKeyword? dropExactly? trimStart)

/-- The text after `d/dx` or `derivative`, in any letter case. -/
def dropDerivative? (cs : List Char) : Option (List Char) :=
  (dropKeyword? "d/dx".toList cs).or (dropKeyword? "derivative".toList cs)

def startsWithIntegral (cs : List Char) : Bool :=
  cs.head? == some '∫' || (dropKeyword? "integral".toList cs).isSome

/-- The text after `f(x) =` or `y =`. -/
def dropFunction? (cs : List Char) : Option (List Char) := do
  let cs := trimStart cs
  let rest ← (dropExactly? "f(x)".toList cs).or (dropExactly? ['y'] cs)
  match trimStart rest with
  | '=' :: body => some body
  | _ => none

def isComparison (c : Char) : Bool := c == '<' || c == '>' || c == '≤' || c == '≥'

def hasComparison (cs : List Char) : Bool := cs.any isComparison

def hasEquality (cs : List Char) : Bool := cs.contains '='

/-! ## the rules -/

def rules : List ((List Char → Bool) × Category) :=
  [(fun cs => cs.isEmpty, .other),
   (fun cs => cs.contains '\n' && hasEquality cs, .system),
   (fun cs => (dropDerivative? cs).isSome, .derivative),
   (fun cs => startsWithIntegral cs, .integral),
   (fun cs => hasComparison cs, .inequality),
   (fun cs => (dropFunction? cs).isSome, .function),
   (fun cs => hasEquality cs, .equation),
   (fun cs => cs.contains 'x' || cs.contains 'X', .function)]

def ofTrimmed (cs : List Char) : Category :=
  ((rules.find? fun r => r.1 cs).map (·.2)).getD .other

def classify (text : List Char) : Category := ofTrimmed (Text.trim text)

/-- The rule that applied, for the log; a text that no rule takes is not mentioned. -/
def notes (text : List Char) : List Log.Note :=
  let clean := Text.trim text
  ((rules.find? fun r => r.1 clean).map fun r =>
    Log.Note.debug "classifier"
      ("Classified " ++ Text.quoted (String.ofList clean) ++ " as " ++ r.2.label)).toList

end Category

end AlgebraDesk

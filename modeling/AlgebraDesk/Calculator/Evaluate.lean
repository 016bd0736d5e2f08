import AlgebraDesk.Answer
import AlgebraDesk.Calculator.Postfix
import AlgebraDesk.Decimal.Display
import AlgebraDesk.Log.Note

/-!
# Evaluating an expression

* `Stages`      what the stages give for a text, as far as they get;
* `evaluate`    the value of a text;
* `answer`      what the desk answers to a text, which may be missing or blank;
* `notes`       what goes to the log: the postfix order, once it is known.
-/

namespace AlgebraDesk.Calculator

structure Stages where
  tokens? : Option (List Token) := none
  ordered? : Option (List Token) := none
  result : Except Failure Float

def stages (text : List Char) : Stages :=
  match tokenize text with
  | .error e => { result := .error (.refused e) }
  | .ok tokens =>
    match toPostfix tokens with
    | .error e => { tokens? := some tokens, result := .error (.refused e) }
    | .ok ordered =>
      { tokens? := some tokens, ordered? := some ordered, result := evalPostfix ordered }

def evaluate (text : List Char) : Except Failure Float := (stages text).result

/-! ## answers -/

/-- A fault takes the place of the answer. -/
def answer (places : Int) (text? : Option String) : Except Fault Answer :=
  match text? with
  | none => .ok (.failed "Type an expression first." "INVALID_EXPRESSION")
  | some text =>
    if !Text.hasInk text.toList then
      .ok (.failed "Type an expression first." "INVALID_EXPRESSION")
    else match evaluate text.toList with
      | .ok x => .ok (.done (Decimal.display places x) (some x))
      | .error (.refused e) => .ok (.failed e.message e.code)
      | .error (.fault f) => .error f

def notes (text : String) : List Log.Note :=
  if !Text.hasInk text.toList then []
  else match (stages text.toList).ordered? with
    | none => []
    | some ordered =>
      [.debug "calculator" ("RPN for " ++ Text.quoted text ++ ": "
        ++ " ".intercalate (ordered.map fun t => String.ofList t.lexeme))]

end AlgebraDesk.Calculator

import AlgebraDesk.Analysis.Basic
import AlgebraDesk.Answer
import AlgebraDesk.Backend.Client
import AlgebraDesk.Fibonacci.Sequence
import AlgebraDesk.Quadratic

/-!
# Reports

What comes of one command of the desk: the result of a tool, or the problem that prevented it.  As a
value, a report says first whether it is good, then of which kind it is.

* `Report`         the kinds;
* `Report.isGood`  whether the command did what it was asked for;
* `Report.fields`  the report as the fields of an object.
-/

namespace AlgebraDesk

inductive Report where
  | evaluation (a : Answer)
  | analysis (a : Analysis)
  | classification (c : Category)
  | quadratic (s : Quadratic.Solution)
  | fibonacci (r : Fibonacci.Run) (sentence : String)
  | plot (a : Answer)
  | models (info : Backend.Info)
  | prediction (p : Backend.Prediction)
  | text (s : String)
  | problem (message : String) (code? : Option String)

namespace Report

def isGood : Report → Bool
  | .evaluation a | .plot a => a.isDone
  | .problem .. => false
  | _ => true

/-- An answer has its kind at the end. -/
def answerFields (a : Answer) (kind : String) : List (String × Value) :=
  a.fields ++ [("type", .text kind)]

/-- A result under a name of its own. -/
def resultFields (kind name : String) (v : Value) : List (String × Value) :=
  [("ok", .bool true), ("type", .text kind), (name, v)]

/-- `spell` writes the names of the features of a model. -/
def fields (spell : Value → String) : Report → List (String × Value)
  | .evaluation a => answerFields a "evaluation"
  | .analysis a => resultFields "analysis" "analysis" a.toValue
  | .classification c => resultFields "classification" "classification" (.text c.label)
  | .quadratic s => resultFields "quadratic" "quadratic" s.toValue
  | .fibonacci r sentence =>
    resultFields "fibonacci" "fibonacci" r.toValue ++ [("text", .text sentence)]
  | .plot a => answerFields a "plot"
  | .models info => resultFields "model_info" "model_info" (info.toValueWith spell)
  | .prediction p => resultFields "prediction" "prediction" p.toValue
  | .text s => resultFields "text" "text" (.text s)
  | .problem message code? =>
    [("ok", .bool false), ("error", .text message)]
      ++ (code?.map fun c => ("error_code", Value.text c)).toList

def toValueWith (spell : Value → String) (r : Report) : Value := .object (r.fields spell)

end Report

end AlgebraDesk

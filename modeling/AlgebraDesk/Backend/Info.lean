import AlgebraDesk.Json.Writer
import AlgebraDesk.Value.Access
import AlgebraDesk.Value.Notation
import AlgebraDesk.Value.Number

/-!
# What the backend tells about its models

The backend describes the regression models that it has trained.  A part that is missing, or empty
in any way, counts as not given; a part of the wrong shape is a fault.

* `Metrics`  one model: its name, its scores, and the values that it was tested on;
* `Info`     all models, the name of the best one, and how much each feature matters;
* `Metrics.read`, `Info.read`  these from the fields of a reply;
* `Info.best?`  the best model, or the first when none has that name;
* `Info.toValue`  the description without the tested values.
-/

namespace AlgebraDesk.Backend

structure Metrics where
  name : String
  trainR2 : Value
  testR2 : Value
  testMae : Value
  overfitGap : Value
  yTrue : List Value
  yPred : List Value

structure Info where
  bestModel : String
  datasetSize : Value
  models : List Metrics
  /-- features with their weights; no feature occurs twice -/
  importance : List (Value × Value)

/-! ## fields that may be missing -/

def fieldOr (fields : List (String × Value)) (key : String) (other : Value) : Value :=
  (Value.lookup? key fields).getD other

def textField (fields : List (String × Value)) (key : String) : String :=
  (fieldOr fields key (.text "")).shown

/-- The elements of a field; none when it is missing or empty in any way. -/
def elementsField (fields : List (String × Value)) (key : String) :
    Except Fault (List Value) :=
  let v := fieldOr fields key .null
  if v.isFilled then v.elements else .ok []

/-! ## models -/

def Metrics.read (v : Value) : Except Fault Metrics := do
  let fields ← v.entries
  return {
    name := textField fields "name"
    trainR2 := fieldOr fields "train_r2" .null
    testR2 := fieldOr fields "test_r2" .null
    testMae := fieldOr fields "test_mae" .null
    overfitGap := fieldOr fields "overfit_gap" .null
    yTrue := ← elementsField fields "y_true"
    yPred := ← elementsField fields "y_pred" }

/-! ## weights of features -/

/-- A feature is named by a text, a number, a truth value or null. -/
def canName : Value → Bool
  | .list _ | .object _ => false
  | _ => true

/-- Numbers and truth values that are equal name the same feature. -/
def sameName : Value → Value → Bool
  | .text s, .text t => s == t
  | .null, .null => true
  | v, w => match v.toNumber?, w.toNumber? with
    | some m, some n => m.eq n
    | _, _ => false

def putWeight (name weight : Value) : List (Value × Value) → List (Value × Value)
  | [] => [(name, weight)]
  | (n, w) :: rest =>
    if sameName n name then (n, weight) :: rest else (n, w) :: putWeight name weight rest

/-- A name and a weight as the two elements of one value. -/
def readPair (v : Value) : Except Fault (Value × Value) := do
  match ← v.elements with
  | [name, weight] => if canName name then .ok (name, weight) else .error .wrongKind
  | _ => .error .badValue

/-- An object, or a sequence of pairs. -/
def readImportance (v : Value) : Except Fault (List (Value × Value)) :=
  match v with
  | .object fields => .ok (fields.map fun f => (.text f.1, f.2))
  | _ =>
    if v.isFilled then do
      (← v.elements).foldlM (fun weights w => do
        let (name, weight) ← readPair w
        return putWeight name weight weights) []
    else .ok []

/-! ## the description -/

namespace Info

def read (fields : List (String × Value)) : Except Fault Info := do
  return {
    bestModel := textField fields "best_model"
    datasetSize := fieldOr fields "dataset_size" .null
    models := ← (← elementsField fields "models").mapM Metrics.read
    importance := ← readImportance (fieldOr fields "feature_importance" .null) }

def best? (info : Info) : Option Metrics :=
  (info.models.find? (·.name == info.bestModel)).or info.models.head?

def metricsValue (m : Metrics) : Value :=
  .object [("name", .text m.name), ("train_r2", m.trainR2), ("test_r2", m.testR2),
    ("test_mae", m.testMae), ("overfit_gap", m.overfitGap)]

/-- The name of a feature as the key of an object in data. -/
def keyText : Value → String
  | .text s => s
  | v => Json.write .compact v

/-- `spell` writes the names of the features. -/
def toValueWith (spell : Value → String) (info : Info) : Value :=
  .object [("best_model", .text info.bestModel), ("dataset_size", info.datasetSize),
    ("models", .list (info.models.map metricsValue)),
    ("feature_importance", .object (info.importance.map fun (n, w) => (spell n, w)))]

def toValue (info : Info) : Value := info.toValueWith keyText

end Info

end AlgebraDesk.Backend

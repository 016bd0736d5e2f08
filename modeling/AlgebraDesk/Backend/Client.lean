import AlgebraDesk.Backend.Info
import AlgebraDesk.Json.Reader
import AlgebraDesk.Log.Note

/-!
# Asking the backend

The backend answers two questions: which models it has, and which score it predicts for three
features.  Each question is one request, which is never repeated, and the features are checked
before it is sent.

* `Reply`, `Request`, `Client`  what comes back, what is sent, and to whom;
* `Error`      why a reply is no answer, with message and code;
* `decode`     the fields of a reply;
* `readFeatures`  the three features as finite doubles;
* `Exchange`   the outcome of a question: the requests sent, the replies left, what goes to the log;
* `Client.modelInfo`, `Client.predict`  the two questions, with replies taken from a list in order.
-/

namespace AlgebraDesk.Backend

inductive Reply where
  | answer (status : Int) (body : String)
  | timeout
  | failure (message : String)

inductive Method where
  | get | post
  deriving DecidableEq, Repr

def Method.name : Method → String
  | .get => "GET"
  | .post => "POST"

structure Request where
  method : Method
  url : String
  timeout : Value
  payload? : Option Value := none

namespace Request

def fields (r : Request) : List (String × Value) :=
  [("method", .text r.method.name), ("url", .text r.url), ("timeout", r.timeout)]
    ++ (r.payload?.map fun p => ("json", p)).toList

def toValue (r : Request) : Value := .object r.fields

end Request

structure Client where
  /-- without slashes at its end -/
  baseUrl : String
  timeout : Value

namespace Client

def defaultUrl : String := "http://127.0.0.1:5000"

def defaultTimeout : Value := .real 10.0

def dropSlashes (url : String) : String :=
  String.ofList (url.toList.reverse.dropWhile (· == '/')).reverse

def ofUrl (url : String) (timeout : Value) : Client := ⟨dropSlashes url, timeout⟩

def standard : Client := ofUrl defaultUrl defaultTimeout

def url (c : Client) (path : String) : String := c.baseUrl ++ path

end Client

/-! ## errors -/

inductive Error where
  | timeout (url : String)
  | unreachable (message : String)
  | status (status : Int) (detail? : Option Value)
  | notJson
  | missingScore

namespace Error

/-- The detail of a status may be of any kind. -/
def message : Error → Value
  | .timeout url => .text ("Request to " ++ url ++ " timed out.")
  | .unreachable message => .text ("Could not reach backend: " ++ message)
  | .status n detail? => detail?.getD (.text ("HTTP " ++ toString n))
  | .notJson => .text "Backend returned a non-JSON response."
  | .missingScore => .text "Backend response is missing predicted_score."

def code : Error → String
  | .timeout _ => "TIMEOUT"
  | .unreachable _ => "CONNECTION_ERROR"
  | .status .. => "HTTP_ERROR"
  | .notJson | .missingScore => "BAD_RESPONSE"

def status? : Error → Option Int
  | .status n _ => some n
  | _ => none

/-- The message as part of a text; only a text can be one. -/
def text (e : Error) : Except Fault String :=
  match e.message with
  | .text s => .ok s
  | _ => .error .wrongKind

end Error

inductive Failure where
  | refused (e : Error)
  | invalidFeatures
  | fault (f : Fault)

def invalidFeaturesMessage : String := "Enter valid numeric values for all fields."

def invalidFeaturesCode : String := "INVALID_FEATURES"

/-! ## replies -/

def isFailureStatus (status : Int) : Bool := 400 ≤ status && status < 600

/-- What a refusal says about its cause, if it says anything. -/
def detail? (body : Option Value) : Option Value :=
  match body.bind (Value.field? "error") with
  | some v => if v.isFilled then some v else none
  | none => none

def decode (url : String) : Reply → Except Error (List (String × Value))
  | .timeout => .error (.timeout url)
  | .failure message => .error (.unreachable message)
  | .answer status body =>
    let data := Json.read? body
    if isFailureStatus status then .error (.status status (detail? data))
    else match data with
      | some (.object fields) => .ok fields
      | _ => .error .notJson

/-! ## features -/

/-- A feature is a number or a text that spells one, and finite; an integer out of range is a
fault. -/
def readFeature (v : Value) : Except Failure Float :=
  match v.readReal with
  | .ok x => if x.isFinite then .ok x else .error .invalidFeatures
  | .error .badValue | .error .wrongKind => .error .invalidFeatures
  | .error f => .error (.fault f)

def readFeatures (study sleep tests : Value) : Except Failure Value := do
  let x ← readFeature study
  let y ← readFeature sleep
  let z ← readFeature tests
  return .object [("StudyHours", .real x), ("SleepHours", .real y), ("PracticeTests", .real z)]

structure Prediction where
  score : Value
  explanation : String

namespace Prediction

def read (fields : List (String × Value)) : Except Error Prediction :=
  match Value.lookup? "predicted_score" fields with
  | some score => .ok ⟨score, textField fields "explanation"⟩
  | none => .error .missingScore

def toValue (p : Prediction) : Value :=
  .object [("predicted_score", p.score), ("explanation", .text p.explanation)]

end Prediction

/-! ## questions -/

/-- What is found when no reply is left. -/
def noReply : Reply := .failure "refused"

structure Exchange (α : Type) where
  result : Except Failure α
  requests : List Request
  rest : List Reply
  notes : List Log.Note

/-- What goes to the log about a request and its reply. -/
def replyNotes (r : Request) (path : String) : Reply → List Log.Note
  | .timeout => [.warning "model_client" ("Timeout calling " ++ r.url) [("timeout", r.timeout)]]
  | .failure message =>
    [.warning "model_client" ("Could not reach " ++ r.url ++ ": " ++ message) []]
  | .answer status _ =>
    if isFailureStatus status then
      [.warning "model_client"
        ("Backend answered HTTP " ++ toString status ++ " for " ++ r.url)
        [("endpoint", .text path)]]
    else []

def requestNote (r : Request) (path : String) : Log.Note :=
  ⟨.info, "model_client", r.method.name ++ " " ++ r.url, [("endpoint", .text path)]⟩

/-- One request, answered by the first reply. -/
def ask {α : Type} (r : Request) (path : String)
    (read : List (String × Value) → Except Failure α) (replies : List Reply) : Exchange α :=
  let reply := replies.headD noReply
  { result := match decode r.url reply with
      | .ok fields => read fields
      | .error e => .error (.refused e)
    requests := [r]
    rest := replies.tail
    notes := requestNote r path :: replyNotes r path reply }

namespace Client

def infoPath : String := "/api/model-info"

def predictPath : String := "/api/predict"

def modelInfo (c : Client) (replies : List Reply) : Exchange Info :=
  ask ⟨.get, c.url infoPath, c.timeout, none⟩ infoPath
    (fun fields => (Info.read fields).mapError .fault) replies

def predict (c : Client) (study sleep tests : Value) (replies : List Reply) :
    Exchange Prediction :=
  match readFeatures study sleep tests with
  | .error e => ⟨.error e, [], replies, []⟩
  | .ok payload =>
    ask ⟨.post, c.url predictPath, c.timeout, some payload⟩ predictPath
      (fun fields => (Prediction.read fields).mapError .refused) replies

end Client

end AlgebraDesk.Backend

import AlgebraDesk.Proofs.Backend.Features
import AlgebraDesk.Proofs.Lists

/-!
# Requests and refusals

A question to the backend is one request or none.  A request is answered by the first reply that is
left, is never sent again, and goes to the base address with the path of the question behind it.
When there is no answer, the reply alone decides which code is told, and whether a status is.

* `IsBase`, `existsUnique_base`   an address without the slashes at its end;
* `Problem`                  what is wrong with a reply, with its code and status;
* `Refuses`, `refuses_ask_iff`     results without an answer, and the replies that lead to them;
* `Exchange.IsSingle`, `Exchange.IsSilent`   one request, and none;
* `modelInfo_single`, `predict_single`, `predict_silent`   the two questions;
* `Asks`, `SentFor`          the request of a question, and those of a list of questions;
* `pose_cases`, `converse_eq`   one question, and any number of them one after the other;
* `client_exchanges`         all of this about a client.
-/

namespace AlgebraDesk.Backend

/-! ## the base address -/

/-- What an address is without the slashes at its end. -/
structure IsBase (base url : String) : Prop where
  slashes : ∃ n, url.toList = base.toList ++ List.replicate n '/'
  bare : base.toList.getLast? ≠ some '/'

theorem isBase_dropSlashes (url : String) : IsBase (Client.dropSlashes url) url := by
  have hbase : (Client.dropSlashes url).toList
      = (url.toList.reverse.dropWhile (· == '/')).reverse := String.toList_ofList
  constructor
  · refine ⟨(url.toList.reverse.takeWhile (· == '/')).length, ?_⟩
    have hslashes : (url.toList.reverse.takeWhile (· == '/')).reverse
        = List.replicate (url.toList.reverse.takeWhile (· == '/')).length '/' := by
      refine List.eq_replicate_iff.mpr ⟨List.length_reverse, fun c hc => ?_⟩
      have hmem : c ∈ url.toList.reverse.takeWhile (· == '/') := List.mem_reverse.mp hc
      have hslash := List.mem_takeWhile_imp hmem
      exact beq_iff_eq.mp hslash
    rw [hbase, ← hslashes, ← List.reverse_append, List.takeWhile_append_dropWhile,
      List.reverse_reverse]
  · rw [hbase, List.getLast?_reverse]
    intro h
    have hhead := head_dropWhile (· == '/') url.toList.reverse '/' h
    cases hhead

theorem dropSlashes_eq {base url : String} (h : IsBase base url) :
    Client.dropSlashes url = base := by
  obtain ⟨n, hslashes⟩ := h.slashes
  have hdrop : (List.replicate n '/' ++ base.toList.reverse).dropWhile (· == '/')
      = base.toList.reverse := by
    refine dropWhile_append_stop (fun c hc => ?_) fun c hc => ?_
    · rw [List.eq_of_mem_replicate hc]
      rfl
    · rw [List.head?_reverse] at hc
      rw [beq_eq_false_iff_ne]
      rintro rfl
      exact h.bare hc
  unfold Client.dropSlashes
  rw [hslashes, List.reverse_append, List.reverse_replicate, hdrop, List.reverse_reverse,
    String.ofList_toList]

theorem existsUnique_base (url : String) : ∃! base, IsBase base url :=
  ⟨Client.dropSlashes url, isBase_dropSlashes url, fun _ h => (dropSlashes_eq h).symm⟩

/-! ## problems -/

/-- What keeps a reply from being an answer, with the code and the status that are told about it.
The body of a failure does not matter; any other body must be an object that is complete. -/
inductive Problem (IsComplete : List (String × Value) → Prop) : Reply → String → Option Int → Prop
  | timeout : Problem IsComplete .timeout "TIMEOUT" none
  | unreachable (message : String) : Problem IsComplete (.failure message) "CONNECTION_ERROR" none
  | status {status : Int} (body : String) (hlow : 400 ≤ status) (hhigh : status < 600) :
      Problem IsComplete (.answer status body) "HTTP_ERROR" (some status)
  | notObject {status : Int} {body : String} (hstatus : ¬ (400 ≤ status ∧ status < 600))
      (hbody : ∀ fields, Json.read? body ≠ some (.object fields)) :
      Problem IsComplete (.answer status body) "BAD_RESPONSE" none
  | incomplete {status : Int} {body : String} {fields : List (String × Value)}
      (hstatus : ¬ (400 ≤ status ∧ status < 600)) (hbody : Json.read? body = some (.object fields))
      (hfields : ¬ IsComplete fields) : Problem IsComplete (.answer status body) "BAD_RESPONSE" none

/-- The client tells that there is no answer. -/
def Refuses {α : Type} (result : Except Failure α) (code : String) (status? : Option Int) : Prop :=
  ∃ e, result = .error (.refused e) ∧ e.code = code ∧ e.status? = status?

section
variable {α : Type} {IsComplete : List (String × Value) → Prop} {reply : Reply} {code : String}
  {status? : Option Int} {e : Error} {result : Except Failure α}

/-- **Only a failure has a status.** -/
theorem Refuses.status_iff (h : Refuses result code status?) :
    status? ≠ none ↔ code = "HTTP_ERROR" := by
  obtain ⟨e, -, rfl, rfl⟩ := h
  cases e with
  | status n detail? => exact iff_of_true (Option.some_ne_none n) rfl
  | timeout _ | unreachable _ | notJson | missingScore =>
    exact iff_of_false (fun h => h rfl) (by simp [Error.code])

theorem refuses_refused : Refuses (.error (.refused e) : Except Failure α) code status?
    ↔ e.code = code ∧ e.status? = status? := by
  constructor
  · rintro ⟨e', h, hcode, hstatus⟩
    cases h
    exact ⟨hcode, hstatus⟩
  · rintro ⟨hcode, hstatus⟩
    exact ⟨e, rfl, hcode, hstatus⟩

theorem isFailureStatus_iff {status : Int} :
    isFailureStatus status = true ↔ 400 ≤ status ∧ status < 600 := by
  unfold isFailureStatus
  rw [Bool.and_eq_true, decide_eq_true_iff, decide_eq_true_iff]

section
variable (url : String) {status : Int} (body : String)

theorem decode_of_failure (h : 400 ≤ status ∧ status < 600) :
    decode url (.answer status body) = .error (.status status (detail? (Json.read? body))) := by
  rw [decode_answer, if_pos (isFailureStatus_iff.mpr h)]

theorem decode_of_object {fields : List (String × Value)} (h : ¬ (400 ≤ status ∧ status < 600))
    (hbody : Json.read? body = some (.object fields)) :
    decode url (.answer status body) = .ok fields :=
  decode_eq_ok.mpr (.answer (Bool.eq_false_iff.mpr (mt isFailureStatus_iff.mp h)) hbody)

theorem decode_of_notObject (h : ¬ (400 ≤ status ∧ status < 600))
    (hbody : ∀ fields, Json.read? body ≠ some (.object fields)) :
    decode url (.answer status body) = .error .notJson := by
  rw [decode_answer, if_neg (mt isFailureStatus_iff.mp h)]
  split
  · rename_i fields hobject
    exact absurd hobject (hbody fields)
  · rfl

end

variable {read : List (String × Value) → Except Failure α}

/-- **The first reply decides**, when a complete object is all that is asked of it. -/
theorem refuses_ask_iff
    (hread : ∀ fields code status?, Refuses (read fields) code status?
      ↔ ¬ IsComplete fields ∧ code = "BAD_RESPONSE" ∧ status? = none)
    (r : Request) (path : String) (replies : List Reply) :
    Refuses (ask r path read replies).result code status?
      ↔ Problem IsComplete (replies.headD noReply) code status? := by
  unfold ask
  dsimp only
  cases replies.headD noReply with
  | timeout =>
    refine refuses_refused.trans ⟨?_, ?_⟩
    · rintro ⟨rfl, rfl⟩
      exact .timeout
    · rintro ⟨⟩
      exact ⟨rfl, rfl⟩
  | failure message =>
    refine refuses_refused.trans ⟨?_, ?_⟩
    · rintro ⟨rfl, rfl⟩
      exact .unreachable message
    · rintro ⟨⟩
      exact ⟨rfl, rfl⟩
  | answer status body =>
    -- the status is looked at first, so a failure may have any body
    by_cases hstatus : 400 ≤ status ∧ status < 600
    · rw [decode_of_failure r.url body hstatus]
      refine refuses_refused.trans ⟨?_, ?_⟩
      · rintro ⟨rfl, rfl⟩
        exact .status body hstatus.1 hstatus.2
      · intro h
        cases h with
        | status => exact ⟨rfl, rfl⟩
        | notObject hno _ | incomplete hno _ _ => exact absurd hstatus hno
    · by_cases hbody : ∃ fields, Json.read? body = some (.object fields)
      · obtain ⟨fields, hbody⟩ := hbody
        rw [decode_of_object r.url body hstatus hbody]
        refine (hread fields code status?).trans ⟨?_, ?_⟩
        · rintro ⟨hfields, rfl, rfl⟩
          exact .incomplete hstatus hbody hfields
        · intro h
          cases h with
          | status _ hlow hhigh => exact absurd ⟨hlow, hhigh⟩ hstatus
          | notObject _ hno => exact absurd hbody (hno fields)
          | incomplete _ hbody' hfields =>
            cases hbody.symm.trans hbody'
            exact ⟨hfields, rfl, rfl⟩
      · have hno : ∀ fields, Json.read? body ≠ some (.object fields) :=
          fun fields h => hbody ⟨fields, h⟩
        rw [decode_of_notObject r.url body hstatus hno]
        refine refuses_refused.trans ⟨?_, ?_⟩
        · rintro ⟨rfl, rfl⟩
          exact .notObject hstatus hno
        · intro h
          cases h with
          | status _ hlow hhigh => exact absurd ⟨hlow, hhigh⟩ hstatus
          | notObject | incomplete => exact ⟨rfl, rfl⟩

end

/-! ## the two questions -/

/-- One request and one reply, which alone decides about a refusal. -/
structure Exchange.IsSingle {α : Type} (x : Exchange α) (r : Request)
    (IsComplete : List (String × Value) → Prop) (replies : List Reply) : Prop where
  requests : x.requests = [r]
  rest : x.rest = replies.tail
  refuses : ∀ code status?,
    Refuses x.result code status? ↔ Problem IsComplete (replies.headD noReply) code status?
  status : ∀ code status?, Refuses x.result code status? → (status? ≠ none ↔ code = "HTTP_ERROR")

/-- No request at all. -/
structure Exchange.IsSilent {α : Type} (x : Exchange α) (replies : List Reply) : Prop where
  requests : x.requests = []
  rest : x.rest = replies
  refuses : ∀ code status?, ¬ Refuses x.result code status?

/-- What a prediction needs of a reply. -/
def HasScore (fields : List (String × Value)) : Prop :=
  ∃ score, Value.lookup? "predicted_score" fields = some score

section
variable (c : Client) (replies : List Reply) {study sleep tests payload : Value} {code : String}
  {status? : Option Int} {fields : List (String × Value)}

/-- A description of another shape is a fault, and no refusal. -/
theorem refuses_read_info : Refuses ((Info.read fields).mapError .fault) code status?
    ↔ ¬ True ∧ code = "BAD_RESPONSE" ∧ status? = none := by
  refine iff_of_false ?_ fun h => h.1 trivial
  rintro ⟨e, h, -⟩
  cases hread : Info.read fields with
  | ok info =>
    rw [hread] at h
    cases h
  | error f =>
    rw [hread] at h
    cases h

theorem refuses_read_prediction : Refuses ((Prediction.read fields).mapError .refused) code status?
    ↔ ¬ HasScore fields ∧ code = "BAD_RESPONSE" ∧ status? = none := by
  unfold Prediction.read HasScore
  cases Value.lookup? "predicted_score" fields with
  | some score =>
    refine iff_of_false ?_ fun h => h.1 ⟨score, rfl⟩
    rintro ⟨e, h, -⟩
    cases h
  | none =>
    refine (refuses_refused (e := .missingScore)).trans ⟨?_, ?_⟩
    · rintro ⟨rfl, rfl⟩
      exact ⟨nofun, rfl, rfl⟩
    · rintro ⟨-, rfl, rfl⟩
      exact ⟨rfl, rfl⟩

theorem modelInfo_single : (c.modelInfo replies).IsSingle
    ⟨.get, c.baseUrl ++ "/api/model-info", c.timeout, none⟩ (fun _ => True) replies where
  requests := rfl
  rest := rfl
  refuses _ _ := refuses_ask_iff (fun _ _ _ => refuses_read_info) _ _ replies
  status _ _ h := h.status_iff

theorem predict_single (h : readFeatures study sleep tests = .ok payload) :
    (c.predict study sleep tests replies).IsSingle
      ⟨.post, c.baseUrl ++ "/api/predict", c.timeout, some payload⟩ HasScore replies := by
  unfold Client.predict
  rw [h]
  exact {
    requests := rfl
    rest := rfl
    refuses := fun _ _ => refuses_ask_iff (fun _ _ _ => refuses_read_prediction) _ _ replies
    status := fun _ _ hrefuses => hrefuses.status_iff }

theorem predict_silent {e : Failure} (h : readFeatures study sleep tests = .error e) :
    (c.predict study sleep tests replies).IsSilent replies := by
  rw [predict_of_error c h]
  refine ⟨rfl, rfl, ?_⟩
  rintro _ _ ⟨refusal, hrefusal, -⟩
  cases hrefusal
  exact readFeatures_not_refused refusal h

end

/-! ## many questions -/

inductive Question where
  | models
  | prediction (study sleep tests : Value)

/-- What is asked on a question, unless the features keep it from being asked. -/
inductive Asks (base : String) (timeout : Value) : Question → Request → Prop
  | models : Asks base timeout .models ⟨.get, base ++ "/api/model-info", timeout, none⟩
  | prediction {study sleep tests : Value} {x y z : Float}
      (hgives : study.Gives x ∧ sleep.Gives y ∧ tests.Gives z)
      (hfinite : x.isFinite = true ∧ y.isFinite = true ∧ z.isFinite = true) :
      Asks base timeout (.prediction study sleep tests)
        ⟨.post, base ++ "/api/predict", timeout, some (payloadOf x y z)⟩

/-- The requests for a list of questions, in their order. -/
inductive SentFor (base : String) (timeout : Value) : List Question → List Request → Prop
  | nil : SentFor base timeout [] []
  | asked {q : Question} {r : Request} {questions : List Question} {requests : List Request}
      (hasks : Asks base timeout q r) (h : SentFor base timeout questions requests) :
      SentFor base timeout (q :: questions) (r :: requests)
  | kept {q : Question} {questions : List Question} {requests : List Request}
      (hkept : ¬ ∃ r, Asks base timeout q r) (h : SentFor base timeout questions requests) :
      SentFor base timeout (q :: questions) requests

namespace Client

/-- The requests that a question sends, and the replies that it leaves. -/
def pose (c : Client) (q : Question) (replies : List Reply) : List Request × List Reply :=
  match q with
  | .models => ((c.modelInfo replies).requests, (c.modelInfo replies).rest)
  | .prediction study sleep tests =>
    ((c.predict study sleep tests replies).requests, (c.predict study sleep tests replies).rest)

/-- One question after the other, each with the replies that the ones before it have left. -/
def converse (c : Client) : List Question → List Reply → List Request × List Reply
  | [], replies => ([], replies)
  | q :: questions, replies =>
    let posed := c.pose q replies
    let later := converse c questions posed.2
    (posed.1 ++ later.1, later.2)

end Client

section
variable (c : Client)

/-- **One step of a conversation**: a request for a reply, or neither. -/
theorem pose_cases (q : Question) :
    (∃ r, Asks c.baseUrl c.timeout q r ∧ ∀ replies, c.pose q replies = ([r], replies.tail)) ∨
      (¬ ∃ r, Asks c.baseUrl c.timeout q r) ∧ ∀ replies, c.pose q replies = ([], replies) := by
  cases q with
  | models => exact .inl ⟨_, .models, fun _ => rfl⟩
  | prediction study sleep tests =>
    cases h : readFeatures study sleep tests with
    | ok payload =>
      obtain ⟨x, y, z, hgives, hfinite, rfl⟩ := readFeatures_eq_ok.mp h
      refine .inl ⟨_, .prediction hgives hfinite, fun replies => ?_⟩
      have hsingle := predict_single c replies h
      exact Prod.ext hsingle.requests hsingle.rest
    | error e =>
      refine .inr ⟨?_, fun replies => ?_⟩
      · rintro ⟨r, hasks⟩
        cases hasks with
        | prediction hgives hfinite =>
          rw [readFeatures_eq_ok.mpr ⟨_, _, _, hgives, hfinite, rfl⟩] at h
          cases h
      · have hsilent := predict_silent c replies h
        exact Prod.ext hsilent.requests hsilent.rest

/-- **A conversation sends what its questions ask**, whatever is replied: no request is repeated,
and there is a reply for each. -/
theorem converse_eq (questions : List Question) :
    ∃ requests, SentFor c.baseUrl c.timeout questions requests ∧
      ∀ replies, c.converse questions replies = (requests, replies.drop requests.length) := by
  -- the requests are found before any reply is known
  induction questions with
  | nil => exact ⟨[], .nil, fun _ => rfl⟩
  | cons q questions ih =>
    obtain ⟨requests, hsent, hrun⟩ := ih
    rcases pose_cases c q with ⟨r, hasks, hpose⟩ | ⟨hkept, hpose⟩
    · refine ⟨r :: requests, .asked hasks hsent, fun replies => ?_⟩
      unfold Client.converse
      dsimp only
      rw [hpose, hrun, List.length_cons, ← List.drop_tail]
      rfl
    · refine ⟨requests, .kept hkept hsent, fun replies => ?_⟩
      unfold Client.converse
      dsimp only
      rw [hpose, hrun]
      rfl

end

/-- **What a client sends, and what it tells when there is no answer.** -/
theorem client_exchanges (url : String) (timeout : Value) : (∃! base, IsBase base url) ∧
    ∀ base, IsBase base url →
      (∀ replies, ((Client.ofUrl url timeout).modelInfo replies).IsSingle
        ⟨.get, base ++ "/api/model-info", timeout, none⟩ (fun _ => True) replies) ∧
      (∀ study sleep tests replies,
        (∀ x y z, study.Gives x ∧ sleep.Gives y ∧ tests.Gives z →
          x.isFinite = true ∧ y.isFinite = true ∧ z.isFinite = true →
          ((Client.ofUrl url timeout).predict study sleep tests replies).IsSingle
            ⟨.post, base ++ "/api/predict", timeout, some (payloadOf x y z)⟩ HasScore replies) ∧
        (¬ (IsFeature study ∧ IsFeature sleep ∧ IsFeature tests) →
          ((Client.ofUrl url timeout).predict study sleep tests replies).IsSilent replies)) ∧
      ∀ questions, ∃ requests, SentFor base timeout questions requests ∧
        ∀ replies, (Client.ofUrl url timeout).converse questions replies
          = (requests, replies.drop requests.length) := by
  refine ⟨existsUnique_base url, fun base hbase => ?_⟩
  obtain rfl := dropSlashes_eq hbase
  refine ⟨fun replies => modelInfo_single _ replies, fun study sleep tests replies => ?_,
    fun questions => converse_eq (Client.ofUrl url timeout) questions⟩
  constructor
  · intro x y z hgives hfinite
    exact predict_single _ replies (readFeatures_eq_ok.mpr ⟨x, y, z, hgives, hfinite, rfl⟩)
  · intro hnone
    cases h : readFeatures study sleep tests with
    | ok payload => exact absurd (readFeatures_ok_iff.mp ⟨payload, h⟩) hnone
    | error e => exact predict_silent _ replies h

/-- The second reply is not looked at when the first is a time-out. -/
theorem client_exchanges_timeout :
    IsBase "http://desk" "http://desk//" ∧
      ((Client.ofUrl "http://desk//" (.int 10)).predict (.real 1) (.real 2) (.real 3)
        [.timeout, .answer 200 "\x7b\x7d"]).requests
          = [⟨.post, "http://desk/api/predict", .int 10, some (payloadOf 1 2 3)⟩] ∧
      Refuses ((Client.ofUrl "http://desk//" (.int 10)).predict (.real 1) (.real 2) (.real 3)
        [.timeout, .answer 200 "\x7b\x7d"]).result "TIMEOUT" none := by
  have hbase : IsBase "http://desk" "http://desk//" := ⟨⟨2, by decide⟩, by decide⟩
  obtain ⟨-, hclient⟩ := client_exchanges "http://desk//" (.int 10)
  obtain ⟨-, hpredict, -⟩ := hclient "http://desk" hbase
  have hsingle := (hpredict (.real 1) (.real 2) (.real 3) [.timeout, .answer 200 "\x7b\x7d"]).1
    1 2 3 ⟨.real 1, .real 2, .real 3⟩ ⟨by decide, by decide, by decide⟩
  exact ⟨hbase, hsingle.requests, (hsingle.refuses _ _).mpr .timeout⟩

end AlgebraDesk.Backend

import AlgebraDesk.Proofs.Backend.Description
import AlgebraDesk.Report.Tools

/-!
# What a backend can answer

Whatever the backend answers, and also when it does not answer, there is a report to give, with two
exceptions: data of another shape in place of a description of the models, and a refusal whose
detail is no text.  Each of them is a fault.  A report that is not good has one of four codes.

* `Brings`, `IsGarbled`   replies with fields, and refusals that cannot be told;
* `models_report_iff`, `prediction_report_iff`       which replies have a report;
* `models_report_cases`, `prediction_report_cases`   what the report is.
-/

namespace AlgebraDesk.Backend

/-! ## replies -/

/-- The status is no failure, and the body spells an object with these fields. -/
inductive Brings (fields : List (String × Value)) : Reply → Prop
  | answer {status : Int} {body : String} (hstatus : isFailureStatus status = false)
      (hbody : Json.read? body = some (.object fields)) : Brings fields (.answer status body)

/-- The status is a failure, and the body gives a detail about it that is no text. -/
inductive IsGarbled : Reply → Prop
  | answer {status : Int} {body : String} {fields : List (String × Value)} {detail : Value}
      (hstatus : isFailureStatus status = true) (hbody : Json.read? body = some (.object fields))
      (herror : Value.lookup? "error" fields = some detail) (hfilled : detail.isFilled = true)
      (htext : ∀ s, detail ≠ .text s) : IsGarbled (.answer status body)

/-- The codes of a report about a reply that is no answer. -/
def problemCodes : List String := ["TIMEOUT", "CONNECTION_ERROR", "HTTP_ERROR", "BAD_RESPONSE"]

theorem code_mem_problemCodes (e : Error) : e.code ∈ problemCodes := by
  cases e with
  | timeout _ => exact .head _
  | unreachable _ => exact .tail _ (.head _)
  | status _ _ => exact .tail _ (.tail _ (.head _))
  | notJson | missingScore => exact .tail _ (.tail _ (.tail _ (.head _)))

section
variable {url : String} {reply : Reply} {fields : List (String × Value)} {e : Error}

theorem decode_answer (url : String) (status : Int) (body : String) :
    decode url (.answer status body)
      = if isFailureStatus status then .error (.status status (detail? (Json.read? body)))
        else match Json.read? body with
          | some (.object fields) => .ok fields
          | _ => .error .notJson := rfl

theorem decode_eq_ok : decode url reply = .ok fields ↔ Brings fields reply := by
  constructor
  · intro h
    cases reply with
    | timeout | failure _ => cases h
    | answer status body =>
      rw [decode_answer] at h
      split at h
      · cases h
      · rename_i hstatus
        split at h
        · rename_i hbody
          cases h
          exact .answer (Bool.eq_false_iff.mpr hstatus) hbody
        · cases h
  · rintro ⟨hstatus, hbody⟩
    rw [decode_answer, hstatus, if_neg Bool.false_ne_true, hbody]

theorem Brings.unique {fields' : List (String × Value)} (h : Brings fields reply)
    (h' : Brings fields' reply) : fields = fields' := by
  obtain ⟨_, hbody⟩ := h
  obtain ⟨_, hbody'⟩ := h'
  cases hbody.symm.trans hbody'
  rfl

theorem detail?_eq_some {body : Option Value} {v : Value} :
    detail? body = some v ↔ ∃ fields, body = some (.object fields) ∧
      Value.lookup? "error" fields = some v ∧ v.isFilled = true := by
  constructor
  · intro h
    unfold detail? at h
    split at h
    · rename_i w hw
      obtain ⟨data, hdata, hfield⟩ := Option.bind_eq_some_iff.mp hw
      split at h
      · rename_i hfilled
        cases h
        cases data with
        | object fields => exact ⟨fields, hdata, hfield, hfilled⟩
        | null | bool _ | int _ | real _ | text _ | list _ => cases hfield
      · cases h
    · cases h
  · rintro ⟨fields, rfl, herror, hfilled⟩
    have hfound : (some (Value.object fields)).bind (Value.field? "error") = some v := herror
    unfold detail?
    rw [hfound]
    exact if_pos hfilled

theorem status_text_ok_iff (status : Int) (detail? : Option Value) :
    (∃ s, (Error.status status detail?).text = .ok s)
      ↔ ∀ v, detail? = some v → ∃ s, v = .text s := by
  cases detail? with
  | none => exact iff_of_true ⟨_, rfl⟩ fun v h => nomatch h
  | some v =>
    cases v with
    | text s => exact iff_of_true ⟨s, rfl⟩ fun v h => ⟨s, (Option.some.inj h).symm⟩
    | null | bool _ | int _ | real _ | list _ | object _ =>
      refine iff_of_false error_ne_ok fun h => ?_
      obtain ⟨s, hs⟩ := h _ rfl
      cases hs

theorem not_isGarbled_of_status {status : Int} (h : isFailureStatus status = false)
    (body : String) : ¬ IsGarbled (.answer status body) := by
  rintro ⟨hfailure, _⟩
  exact Bool.false_ne_true (h.symm.trans hfailure)

theorem not_isGarbled_of_brings (h : Brings fields reply) : ¬ IsGarbled reply := by
  obtain ⟨hstatus, _⟩ := h
  exact not_isGarbled_of_status hstatus _

/-- A reply that is no answer has a reason that can be told, unless it is garbled. -/
theorem text_ok_iff (h : decode url reply = .error e) :
    (∃ s, e.text = .ok s) ↔ ¬ IsGarbled reply := by
  cases reply with
  | timeout | failure _ =>
    cases h
    exact iff_of_true ⟨_, rfl⟩ fun hgarbled => nomatch hgarbled
  | answer status body =>
    cases hstatus : isFailureStatus status with
    | true =>
      have he : e = .status status (detail? (Json.read? body)) := by
        rw [decode_answer, if_pos hstatus] at h
        exact (Except.error.inj h).symm
      rw [he, status_text_ok_iff]
      constructor
      · rintro htext ⟨_, hbody, herror, hfilled, hno⟩
        obtain ⟨s, hs⟩ := htext _ (detail?_eq_some.mpr ⟨_, hbody, herror, hfilled⟩)
        exact hno s hs
      · intro hclear v hv
        obtain ⟨fields, hbody, herror, hfilled⟩ := detail?_eq_some.mp hv
        by_contra hno
        exact hclear (.answer hstatus hbody herror hfilled fun s hs => hno ⟨s, hs⟩)
    | false =>
      have he : e = .notJson := by
        rw [decode_answer, hstatus, if_neg Bool.false_ne_true] at h
        split at h
        · cases h
        · exact (Except.error.inj h).symm
      rw [he]
      exact iff_of_true ⟨_, rfl⟩ (not_isGarbled_of_status hstatus body)

end

/-! ## the two questions -/

section
variable (c : Client) (replies : List Reply)

theorem modelInfo_result : (c.modelInfo replies).result
    = match decode (c.url Client.infoPath) (replies.headD noReply) with
      | .ok fields => (Info.read fields).mapError .fault
      | .error e => .error (.refused e) := rfl

theorem predict_result {study sleep tests payload : Value}
    (h : readFeatures study sleep tests = .ok payload) :
    (c.predict study sleep tests replies).result
      = match decode (c.url Client.predictPath) (replies.headD noReply) with
        | .ok fields => (Prediction.read fields).mapError .refused
        | .error e => .error (.refused e) := by
  unfold Client.predict
  rw [h]
  rfl

theorem models_report_iff :
    (∃ r, Report.ofModels (c.modelInfo replies).result = .ok r)
      ↔ ∀ fields, Brings fields (replies.headD noReply) → IsDescription fields := by
  rw [modelInfo_result]
  cases hdecode : decode (c.url Client.infoPath) (replies.headD noReply) with
  | error e =>
    refine iff_of_true ⟨_, rfl⟩ fun fields hbrings => ?_
    rw [decode_eq_ok.mpr hbrings] at hdecode
    cases hdecode
  | ok fields =>
    have hdescription : (∀ fields', Brings fields' (replies.headD noReply) → IsDescription fields')
        ↔ IsDescription fields := by
      refine ⟨fun h => h fields (decode_eq_ok.mp hdecode), fun h fields' hbrings => ?_⟩
      rw [hbrings.unique (decode_eq_ok.mp hdecode)]
      exact h
    rw [hdescription, ← read_ok_iff]
    show (∃ r, Report.ofModels ((Info.read fields).mapError .fault) = .ok r) ↔ _
    cases Info.read fields with
    | ok info => exact iff_of_true ⟨_, rfl⟩ ⟨info, rfl⟩
    | error f => exact iff_of_false error_ne_ok error_ne_ok

/-- A problem with one of the codes. -/
def IsProblem (r : Report) : Prop :=
  ∃ message code, code ∈ problemCodes ∧ r = .problem message (some code)

theorem models_report_cases {r : Report}
    (h : Report.ofModels (c.modelInfo replies).result = .ok r) :
    (∃ fields info, Brings fields (replies.headD noReply) ∧ Info.read fields = .ok info ∧
      r = .models info) ∨ IsProblem r := by
  rw [modelInfo_result] at h
  cases hdecode : decode (c.url Client.infoPath) (replies.headD noReply) with
  | error e =>
    rw [hdecode] at h
    cases h
    exact .inr ⟨_, _, code_mem_problemCodes e, rfl⟩
  | ok fields =>
    rw [hdecode] at h
    cases hinfo : Info.read fields with
    | error f =>
      simp only [hinfo] at h
      cases h
    | ok info =>
      simp only [hinfo] at h
      cases h
      exact .inl ⟨fields, info, decode_eq_ok.mp hdecode, hinfo, rfl⟩

theorem ofPrediction_refused (e : Error) :
    Report.ofPrediction (.error (.refused e))
      = e.text >>= fun reason =>
        .ok (.problem ("Prediction failed: " ++ reason) (some e.code)) := rfl

theorem prediction_report_iff {study sleep tests payload : Value}
    (hfeatures : readFeatures study sleep tests = .ok payload) :
    (∃ r, Report.ofPrediction (c.predict study sleep tests replies).result = .ok r)
      ↔ ¬ IsGarbled (replies.headD noReply) := by
  rw [predict_result c replies hfeatures]
  cases hdecode : decode (c.url Client.predictPath) (replies.headD noReply) with
  | ok fields =>
    refine iff_of_true ?_ (not_isGarbled_of_brings (decode_eq_ok.mp hdecode))
    show ∃ r, Report.ofPrediction ((Prediction.read fields).mapError .refused) = .ok r
    unfold Prediction.read
    split
    · exact ⟨_, rfl⟩
    · exact ⟨_, rfl⟩
  | error e =>
    rw [← text_ok_iff hdecode]
    show (∃ r, Report.ofPrediction (.error (.refused e)) = .ok r) ↔ _
    rw [ofPrediction_refused]
    exact exists_bind_eq_ok fun _ => ⟨_, rfl⟩

theorem prediction_report_cases {study sleep tests payload : Value}
    (hfeatures : readFeatures study sleep tests = .ok payload) {r : Report}
    (h : Report.ofPrediction (c.predict study sleep tests replies).result = .ok r) :
    (∃ fields p, Brings fields (replies.headD noReply) ∧ Prediction.read fields = .ok p ∧
      r = .prediction p) ∨ IsProblem r := by
  rw [predict_result c replies hfeatures] at h
  cases hdecode : decode (c.url Client.predictPath) (replies.headD noReply) with
  | error e =>
    simp only [hdecode, ofPrediction_refused] at h
    obtain ⟨reason, _, h⟩ := bind_eq_ok.mp h
    cases h
    exact .inr ⟨_, _, code_mem_problemCodes e, rfl⟩
  | ok fields =>
    rw [hdecode] at h
    cases hread : Prediction.read fields with
    | error e =>
      simp only [hread, mapError_error, ofPrediction_refused] at h
      obtain ⟨reason, _, h⟩ := bind_eq_ok.mp h
      cases h
      exact .inr ⟨_, _, code_mem_problemCodes e, rfl⟩
    | ok p =>
      simp only [hread] at h
      cases h
      exact .inl ⟨fields, p, decode_eq_ok.mp hdecode, hread, rfl⟩

end

end AlgebraDesk.Backend

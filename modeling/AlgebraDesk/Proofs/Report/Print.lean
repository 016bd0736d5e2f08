import AlgebraDesk.Proofs.Result
import AlgebraDesk.Report.Print

/-!
# Which reports are printed

What is printed in plain words is found from a report as a value, and a value that lacks what its
kind promises would be a fault.  The value of a report has all that is looked for in it, whatever
the report is about.  One thing is not promised: features are listed with the heaviest first, so a
weight that is no number stops the list.

* `fault?_append`, `fault?_foldl`   a printout is without fault when its parts are;
* `analysisSteps_ok`     the lines of an analysis;
* `modelSteps_ok_iff`    the lines of a description of models;
* `HasPlainWords`        what a report has to fulfil to be printed in plain words;
* `print_iff`            which reports are printed.
-/

namespace AlgebraDesk

/-! ## printouts -/

namespace Printout

theorem fault?_append {p q : Printout} :
    (p ++ q).fault? = none ↔ p.fault? = none ∧ q.fault? = none := by
  show (append p q).fault? = none ↔ _
  unfold append
  cases hp : p.fault? with
  | none => exact ⟨fun h => ⟨rfl, h⟩, fun h => h.2⟩
  | some f =>
    dsimp only
    rw [hp]
    exact ⟨fun h => absurd h (Option.some_ne_none f), fun h => h.1⟩

theorem fault?_ofStep {step : Except Fault (List String)} :
    (ofStep step).fault? = none ↔ ∃ ls, step = .ok ls := by
  cases step with
  | ok ls => exact iff_of_true rfl ⟨ls, rfl⟩
  | error f => exact iff_of_false (Option.some_ne_none f) error_ne_ok

/-- What is printed part by part. -/
theorem fault?_foldl {α : Type} (print : α → Printout) (as : List α) (p : Printout) :
    (as.foldl (fun p a => p ++ print a) p).fault? = none
      ↔ p.fault? = none ∧ ∀ a ∈ as, (print a).fault? = none := by
  induction as generalizing p with
  | nil => exact ⟨fun h => ⟨h, fun a ha => absurd ha List.not_mem_nil⟩, fun h => h.1⟩
  | cons a as ih =>
    rw [List.foldl_cons, ih, fault?_append, List.forall_mem_cons, and_assoc]

theorem fault?_ofSteps {steps : List (Except Fault (List String))} :
    (ofSteps steps).fault? = none ↔ ∀ step ∈ steps, ∃ ls, step = .ok ls := by
  unfold ofSteps
  rw [fault?_foldl]
  exact ⟨fun h step hstep => fault?_ofStep.mp (h.2 step hstep),
    fun h => ⟨rfl, fun step hstep => fault?_ofStep.mpr (h step hstep)⟩⟩

end Printout

namespace Report

/-! ## lines -/

section
variable {v w : Value} {key : String}

theorem entryLine_ok (h : v.entry key = .ok w) (label : String) :
    ∃ ls, entryLine v key label = .ok ls := by
  unfold entryLine
  rw [h]
  exact ⟨_, rfl⟩

theorem within_eq (h : v.entry key = .ok w) (step : Value → Step) : within v key step = step w := by
  unfold within
  rw [h]
  rfl

/-- Only a part that is there has to have a text. -/
theorem filledLine_ok_iff (h : v.entry key = .ok w) {label : String}
    {text : Value → Except Fault String} :
    (∃ ls, filledLine v key label text = .ok ls) ↔ (w.isFilled = true → ∃ t, text w = .ok t) := by
  unfold filledLine
  rw [h, ok_bind]
  cases w.isFilled with
  | false => exact iff_of_true ⟨_, rfl⟩ fun h => absurd h Bool.false_ne_true
  | true =>
    rw [if_pos rfl]
    exact (exists_bind_eq_ok fun _ => ⟨_, rfl⟩).trans ⟨fun h _ => h, fun h => h rfl⟩

end

/-! ## analyses -/

theorem pointsText_ok (places : Int) (ps : List Point) :
    ∃ t, pointsText places (Analysis.pointsValue ps) = .ok t := by
  have hpoints : ∀ v ∈ ps.map Point.toValue, ∃ t, Value.displayPoint places v = .ok t := by
    intro v hv
    obtain ⟨p, _, rfl⟩ := List.mem_map.mp hv
    exact ⟨_, rfl⟩
  obtain ⟨ts, hts⟩ := mapM_ok_iff.mpr hpoints
  show ∃ t, ((ps.map Point.toValue).mapM (Value.displayPoint places) >>= fun ts => _) = Except.ok t
  rw [hts]
  exact ⟨_, rfl⟩

theorem pointsLine_ok (places : Int) {v : Value} {key : String} (ps : List Point)
    (h : v.entry key = .ok (Analysis.pointsValue ps)) (label : String) :
    ∃ ls, filledLine v key label (pointsText places) = .ok ls :=
  (filledLine_ok_iff h).mpr fun _ => pointsText_ok places ps

theorem pointLine_ok (places : Int) {v : Value} {key : String} (p? : Option Point)
    (h : v.entry key = .ok ((p?.map Point.toValue).getD (.list []))) (label : String) :
    ∃ ls, filledLine v key label (Value.displayPoint places) = .ok ls := by
  refine (filledLine_ok_iff h).mpr fun hfilled => ?_
  cases p? with
  | none => cases hfilled
  | some p => exact ⟨_, rfl⟩

theorem analysisSteps_ok (places : Int) (a : Analysis) :
    ∀ step ∈ analysisSteps places a.toValue, ∃ ls, step = .ok ls := by
  have hkeys := fun step => within_eq (show a.toValue.entry "key_points" = .ok _ from rfl) step
  have hgraph := fun step => within_eq (show a.toValue.entry "graph" = .ok _ from rfl) step
  unfold analysisSteps
  rw [hkeys, hkeys, hkeys, hgraph]
  simp only [List.forall_mem_cons, List.not_mem_nil, false_imp_iff, implies_true, and_true]
  exact ⟨⟨_, rfl⟩, ⟨_, rfl⟩, pointsLine_ok places a.keyPoints.roots rfl _,
    pointLine_ok places a.keyPoints.vertex? rfl _,
    pointsLine_ok places a.keyPoints.intersections rfl _,
    (filledLine_ok_iff (w := .text a.graph.expression) rfl).mpr fun _ => ⟨_, rfl⟩,
    ⟨_, rfl⟩, ⟨_, rfl⟩⟩

/-! ## models -/

/-- The weights of the features are numbers or truth values. -/
def HasNumericWeights (info : Backend.Info) : Prop :=
  ∀ w ∈ info.importance, w.2.toNumber?.isSome = true

theorem asNumber_ok_iff (v : Value) : (∃ n, v.asNumber = .ok n) ↔ v.toNumber?.isSome = true := by
  unfold Value.asNumber
  cases v.toNumber? with
  | some n => exact iff_of_true ⟨n, rfl⟩ rfl
  | none => exact iff_of_false error_ne_ok Bool.false_ne_true

theorem importanceText_ok_iff (fields : List (String × Value)) :
    (∃ t, importanceText (.object fields) = .ok t)
      ↔ ∀ f ∈ fields, f.2.toNumber?.isSome = true := by
  have hweigh : ∀ f : String × Value, (∃ w, (do return (f, ← f.2.asNumber)) = Except.ok w)
      ↔ f.2.toNumber?.isSome = true := by
    intro f
    rw [← asNumber_ok_iff]
    exact exists_bind_eq_ok fun _ => ⟨_, rfl⟩
  simp only [← hweigh]
  rw [← mapM_ok_iff]
  unfold importanceText Value.entries
  rw [ok_bind]
  exact exists_bind_eq_ok fun _ => ⟨_, rfl⟩

theorem modelSteps_ok_iff (info : Backend.Info) (spell : Value → String) :
    (∀ step ∈ modelSteps (info.toValueWith spell), ∃ ls, step = .ok ls)
      ↔ HasNumericWeights info := by
  have hrows : rowSteps (info.toValueWith spell)
      = (info.models.map Backend.Info.metricsValue).map modelRow := rfl
  have hrow : ∀ step ∈ rowSteps (info.toValueWith spell), ∃ ls, step = .ok ls := by
    intro step hstep
    rw [hrows] at hstep
    obtain ⟨v, hv, rfl⟩ := List.mem_map.mp hstep
    obtain ⟨m, _, rfl⟩ := List.mem_map.mp hv
    exact ⟨_, rfl⟩
  have hweights : (∃ ls, filledLine (info.toValueWith spell) "feature_importance"
      "Feature importance: " importanceText = .ok ls) ↔ HasNumericWeights info := by
    rw [filledLine_ok_iff (show (info.toValueWith spell).entry "feature_importance"
      = .ok (.object (info.importance.map fun w => (spell w.1, w.2))) from rfl),
      importanceText_ok_iff, List.forall_mem_map]
    -- without a weight there is no such line, and nothing to ask of it
    refine ⟨fun h w hw => h ?_ w hw, fun h _ => h⟩
    have hne : info.importance ≠ [] := List.ne_nil_of_mem hw
    simpa [Value.isFilled] using hne
  unfold modelSteps
  simp only [List.forall_mem_append, List.forall_mem_cons, List.not_mem_nil, false_imp_iff,
    implies_true, and_true]
  rw [hweights]
  exact ⟨fun h => h.2, fun h => ⟨⟨⟨⟨_, rfl⟩, ⟨_, rfl⟩⟩, hrow⟩, h⟩⟩

/-! ## any report -/

/-- What a report has to fulfil to be printed in plain words. -/
def HasPlainWords : Report → Prop
  | .models info => HasNumericWeights info
  | _ => True

theorem plain_good {places : Int} {v : Value} {kind : String}
    (hok : v.entry? "ok" = .ok (some (.bool true))) (hkind : kindOf v = kind) :
    (plain places v).fault? = none ↔ ∀ step ∈ goodSteps places kind v, ∃ ls, step = .ok ls := by
  unfold plain
  rw [hok, hkind]
  exact Printout.fault?_ofSteps

theorem plain_bad {places : Int} {v : Value} (hok : v.entry? "ok" = .ok (some (.bool false))) :
    (plain places v).fault? = none := by
  cases v with
  | object fields =>
    unfold plain
    rw [hok]
    exact Printout.fault?_ofStep.mpr ⟨_, rfl⟩
  | null | bool _ | int _ | real _ | text _ | list _ => cases hok

/-- An answer is printed by its result. -/
theorem plain_answer (places : Int) (a : Answer) {kind label : String}
    (hsteps : ∀ v, goodSteps places kind v = [entryLine v "result" label]) :
    (plain places (.object (answerFields a kind))).fault? = none := by
  cases a with
  | failed message code => exact plain_bad rfl
  | done result value? =>
    have hkind : kindOf (.object (answerFields (.done result value?) kind)) = kind := by
      cases value? <;> rfl
    rw [plain_good rfl hkind, hsteps, List.forall_mem_singleton]
    exact entryLine_ok (w := .text result) rfl label

theorem print_plain_iff (places : Int) (r : Report) :
    (r.print .plain places).fault? = none ↔ r.HasPlainWords := by
  show (plain places (r.toValueWith Value.shown)).fault? = none ↔ _
  cases r with
  | evaluation a => exact iff_of_true (plain_answer places a fun _ => rfl) trivial
  | plot a => exact iff_of_true (plain_answer places a fun _ => rfl) trivial
  | problem message code? => exact iff_of_true (plain_bad rfl) trivial
  | analysis a =>
    rw [plain_good rfl rfl]
    exact iff_of_true (analysisSteps_ok places a) trivial
  | models info =>
    rw [plain_good rfl rfl]
    exact modelSteps_ok_iff info Value.shown
  | classification _ | quadratic _ | fibonacci _ _ | prediction _ | text _ =>
    rw [plain_good rfl rfl]
    exact iff_of_true (List.forall_mem_singleton.mpr ⟨_, rfl⟩) trivial

/-- **Every report is printed**, a description of models in plain words only if the weights of its
features are numbers. -/
theorem print_iff (format : Format) (places : Int) (r : Report) :
    (r.print format places).fault? = none ↔ (format = .plain → r.HasPlainWords) := by
  cases format with
  | json => exact iff_of_true rfl fun h => nomatch h
  | plain => exact (print_plain_iff places r).trans ⟨fun h _ => h, fun h => h rfl⟩

end Report

end AlgebraDesk

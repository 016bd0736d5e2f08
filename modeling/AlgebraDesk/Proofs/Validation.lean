import AlgebraDesk.Proofs.Backend.Features
import AlgebraDesk.Proofs.Fibonacci.Sequence
import AlgebraDesk.Proofs.Quadratic.Checked

/-!
# Values of any kind

Three tools take values of any kind: the solver, the generator and the prediction.  Each succeeds
for the values that it is made for, and refuses all others; there is one exception.  An integer that
is too large for a double is a fault of the solver and of the prediction, unless a value before it
has been refused.  The generator refuses it like any other count out of range.

* `solveValues_of_neither`, `generate_ok_iff`, `generate_not_fault`   the solver and the generator;
* `scored`                      a reply to a prediction;
* `validated_unless_too_large`  the three tools together.
-/

namespace AlgebraDesk.Validation

open Backend (AnswersWell Client IsFeature Reply noReply)
open Fibonacci (AsksFor)
open Quadratic (AreCoefficients solveValues)
open Value (OverflowsIn)

/-! ## the solver and the generator -/

theorem solveValues_of_neither {places : Int} {a b c : Value} (hok : ¬ AreCoefficients a b c)
    (hfault : ¬ OverflowsIn (fun v => ∃ x, v.Gives x) a b c) :
    ∃ e, solveValues places a b c = .error (.refused e) := by
  cases h : solveValues places a b c with
  | ok q => exact absurd (Quadratic.solveValues_ok_iff.mp ⟨q, h⟩) hok
  | error e =>
    cases e with
    | refused e => exact ⟨e, rfl⟩
    | fault f => exact absurd (Quadratic.solveValues_fault_iff.mp ⟨f, h⟩) hfault

theorem generate_ok_iff (v : Value) : (∃ r, Fibonacci.generate v = .ok r)
    ↔ ∃ n, (2 ≤ n ∧ n ≤ 25) ∧ AsksFor n v := by
  simp only [← Fibonacci.count?_eq_some_iff]
  rw [Fibonacci.generate_eq]
  cases Fibonacci.count? v with
  | none =>
    refine iff_of_false error_ne_ok ?_
    rintro ⟨_, h⟩
    cases h
  | some n => exact iff_of_true ⟨_, rfl⟩ ⟨n, rfl⟩

theorem generate_refused_iff (v : Value) :
    Fibonacci.generate v = .error (.refused .invalidCount)
      ↔ ¬ ∃ n, (2 ≤ n ∧ n ≤ 25) ∧ AsksFor n v := by
  rw [← generate_ok_iff, Fibonacci.generate_eq]
  cases Fibonacci.count? v with
  | none => exact iff_of_true rfl error_ne_ok
  | some n => exact iff_of_false (fun h => nomatch h) fun h => h ⟨_, rfl⟩

/-! ## the three tools -/

/-- A reply with a score and nothing else. -/
def scored : Reply := .answer 200 "\x7b\"predicted_score\": 80\x7d"

theorem answersWell_scored : AnswersWell scored := by
  have hread : ((Json.read? "\x7b\"predicted_score\": 80\x7d").bind
      (Value.field? "predicted_score")).isSome = true := by
    decide +kernel
  obtain ⟨score, hscore⟩ := Option.isSome_iff_exists.mp hread
  obtain ⟨value, hbody, hfield⟩ := Option.bind_eq_some_iff.mp hscore
  cases value with
  | object fields => exact ⟨fields, score, .answer (by decide) hbody, hfield⟩
  | null | bool _ | int _ | real _ | text _ | list _ => cases hfield

/-- **Every value is accepted or refused**, but for the integers that are too large for a double. -/
theorem validated_unless_too_large {places : Int} (hplaces : places ≤ Value.placesLimit)
    (client : Client) {replies : List Reply} (hreply : AnswersWell (replies.headD noReply))
    (u v w n : Value) :
    let solved := Quadratic.Checked.solveValues places u v w
    let predicted := client.predict u v w replies
    (solved = solveValues places u v w ∧
      ((∃ q, solved = .ok q) ↔ AreCoefficients u v w) ∧
      ((∃ f, solved = .error (.fault f)) ↔ OverflowsIn (fun v => ∃ x, v.Gives x) u v w) ∧
      (¬ AreCoefficients u v w → ¬ OverflowsIn (fun v => ∃ x, v.Gives x) u v w →
        ∃ e, solved = .error (.refused e))) ∧
    (((∃ r, Fibonacci.generate n = .ok r) ↔ ∃ k, (2 ≤ k ∧ k ≤ 25) ∧ AsksFor k n) ∧
      ((¬ ∃ k, (2 ≤ k ∧ k ≤ 25) ∧ AsksFor k n) →
        Fibonacci.generate n = .error (.refused .invalidCount))) ∧
    ((∃ p, predicted.result = .ok p) ↔ IsFeature u ∧ IsFeature v ∧ IsFeature w) ∧
    ((∃ f, predicted.result = .error (.fault f)) ↔ OverflowsIn IsFeature u v w) ∧
    (¬ (IsFeature u ∧ IsFeature v ∧ IsFeature w) → ¬ OverflowsIn IsFeature u v w →
      predicted = ⟨.error .invalidFeatures, [], replies, []⟩) := by
  have hsolved := Quadratic.Checked.solveValues_eq hplaces u v w
  dsimp only
  rw [hsolved]
  exact ⟨⟨rfl, Quadratic.solveValues_ok_iff, Quadratic.solveValues_fault_iff,
      solveValues_of_neither⟩,
    ⟨generate_ok_iff n, (generate_refused_iff n).mpr⟩,
    Backend.predict_ok_iff client hreply, Backend.predict_fault_iff client hreply,
    Backend.predict_of_neither client hreply⟩

/-- An integer, a double and a truth value; the count is a double. -/
theorem validated_mixed :
    ((4 : Int) ≤ Value.placesLimit ∧ AnswersWell scored) ∧
    (∃ q, solveValues 4 (.int 1) (.real (-3.0)) (.bool true) = .ok q) ∧
    (∃ r, Fibonacci.generate (.real (Double.integer 12)) = .ok r) ∧
    ∃ p, (Client.standard.predict (.int 1) (.real (-3.0)) (.bool true) [scored]).result
      = .ok p := by
  have hplaces : (4 : Int) ≤ Value.placesLimit := by decide
  have hreply : AnswersWell (List.headD [scored] noReply) := answersWell_scored
  have hone : (Value.int 1).Gives (Double.integer 1) := .int (by decide +kernel)
  have hfinite : (Double.integer 1).isFinite = true := Double.isFinite_integer (by decide)
  have hthree : (-3.0 : Float).isFinite = true := by decide +kernel
  have htrue : (if true then 1 else 0 : Float).isFinite = true := by decide +kernel
  have hcoefficients : AreCoefficients (.int 1) (.real (-3.0)) (.bool true) :=
    ⟨_, _, _, ⟨hone, .real _, .bool true⟩, ⟨hfinite, hthree, htrue⟩, by decide +kernel⟩
  have hcount : AsksFor 12 (.real (Double.integer 12)) := .real
  obtain ⟨⟨hsolved, hok, -⟩, ⟨hgenerated, -⟩, hpredicted, -⟩ :=
    validated_unless_too_large hplaces .standard hreply (.int 1) (.real (-3.0)) (.bool true)
      (.real (Double.integer 12))
  refine ⟨⟨hplaces, answersWell_scored⟩, ?_, hgenerated.mpr ⟨12, by decide, hcount⟩,
    hpredicted.mpr ⟨⟨_, hone, hfinite⟩, ⟨_, .real _, hthree⟩, ⟨_, .bool true, htrue⟩⟩⟩
  rw [← hsolved]
  exact hok.mpr hcoefficients

/-- An integer that is too large for a double is not refused, neither as a coefficient nor as a
feature. -/
theorem large_integer_not_refused :
    (¬ ∀ (places : Int) (a b c : Value) (f : Fault),
      solveValues places a b c ≠ .error (.fault f)) ∧
    ¬ ∀ (client : Client) (replies : List Reply), AnswersWell (replies.headD noReply) →
      ∀ (u v w : Value) (f : Fault), (client.predict u v w replies).result ≠ .error (.fault f) := by
  have hlarge : (Value.int (10 ^ 400)).IsTooLarge := .int (by decide +kernel)
  constructor
  · intro h
    have hfault : ∃ f, solveValues 4 (.int (10 ^ 400)) (.int 1) (.int 1) = .error (.fault f) :=
      Quadratic.solveValues_fault_iff.mpr (.inl hlarge)
    obtain ⟨f, hf⟩ := hfault
    exact h _ _ _ _ f hf
  · intro h
    have hreply : AnswersWell (List.headD [scored] noReply) := answersWell_scored
    have hfault : ∃ f, (Client.standard.predict (.int (10 ^ 400)) (.int 1) (.int 1)
        [scored]).result = .error (.fault f) :=
      (Backend.predict_fault_iff _ hreply).mpr (.inl hlarge)
    obtain ⟨f, hf⟩ := hfault
    exact h _ _ hreply _ _ _ f hf

end AlgebraDesk.Validation

import AlgebraDesk.Proofs.Backend.Report
import AlgebraDesk.Proofs.Value.Number

/-!
# Features of any kind

Three values are features when each of them gives a finite double.  Anything else is refused before
a request is sent, except an integer that is too large for a double: it is a fault, unless a value
before it has been refused.

* `readFeature_eq_ok`, `readFeature_fault_iff`   how one value is read;
* `readFeatures_eq_ok`, `readFeatures_fault_iff`, `readFeatures_reals`   how three are;
* `AnswersWell`   a reply to a prediction that is one;
* `predict_ok_iff`, `predict_fault_iff`, `predict_of_neither`   what comes of a prediction then.
-/

namespace AlgebraDesk.Backend

/-! ## one value -/

/-- Values that give a finite double. -/
def IsFeature (v : Value) : Prop := ∃ x, v.Gives x ∧ x.isFinite = true

section
variable {v : Value} {x : Float}

theorem readFeature_eq_ok : readFeature v = .ok x ↔ v.Gives x ∧ x.isFinite = true := by
  rw [← Value.readReal_eq_ok]
  unfold readFeature
  cases v.readReal with
  | ok y =>
    dsimp only
    constructor
    · intro h
      split at h
      · rename_i hfinite
        cases h
        exact ⟨rfl, hfinite⟩
      · cases h
    · rintro ⟨h, hfinite⟩
      cases h
      exact if_pos hfinite
  | error f =>
    refine iff_of_false (fun h => ?_) fun h => nomatch h.1
    cases f <;> cases h

theorem readFeature_fault_iff (v : Value) :
    (∃ f, readFeature v = .error (.fault f)) ↔ v.IsTooLarge := by
  constructor
  · rintro ⟨f, h⟩
    unfold readFeature at h
    cases hread : v.readReal with
    | ok x =>
      rw [hread] at h
      dsimp only at h
      split at h <;> cases h
    | error g =>
      rw [hread] at h
      rcases Value.readReal_error hread with ⟨_, hlarge⟩ | rfl | rfl
      · exact hlarge
      · cases h
      · cases h
  · intro hlarge
    unfold readFeature
    rw [Value.readReal_of_isTooLarge hlarge]
    exact ⟨_, rfl⟩

theorem readFeature_not_refused (v : Value) (e : Error) : readFeature v ≠ .error (.refused e) := by
  unfold readFeature
  intro h
  split at h
  · split at h <;> cases h
  · cases h
  · cases h
  · cases h

end

/-! ## three values -/

section
variable {study sleep tests : Value}

/-- What is sent for three features. -/
def payloadOf (x y z : Float) : Value :=
  .object [("StudyHours", .real x), ("SleepHours", .real y), ("PracticeTests", .real z)]

theorem readFeatures_eq_ok {payload : Value} : readFeatures study sleep tests = .ok payload
    ↔ ∃ x y z, (study.Gives x ∧ sleep.Gives y ∧ tests.Gives z) ∧
      (x.isFinite = true ∧ y.isFinite = true ∧ z.isFinite = true) ∧ payload = payloadOf x y z := by
  unfold readFeatures
  simp only [Value.read_three_eq_ok, readFeature_eq_ok]
  constructor
  · rintro ⟨x, y, z, ⟨hx, hfx⟩, ⟨hy, hfy⟩, ⟨hz, hfz⟩, h⟩
    cases h
    exact ⟨x, y, z, ⟨hx, hy, hz⟩, ⟨hfx, hfy, hfz⟩, rfl⟩
  · rintro ⟨x, y, z, ⟨hx, hy, hz⟩, ⟨hfx, hfy, hfz⟩, rfl⟩
    exact ⟨x, y, z, ⟨hx, hfx⟩, ⟨hy, hfy⟩, ⟨hz, hfz⟩, rfl⟩

theorem readFeatures_ok_iff : (∃ payload, readFeatures study sleep tests = .ok payload)
    ↔ IsFeature study ∧ IsFeature sleep ∧ IsFeature tests := by
  constructor
  · rintro ⟨payload, h⟩
    obtain ⟨x, y, z, ⟨hx, hy, hz⟩, ⟨hfx, hfy, hfz⟩, -⟩ := readFeatures_eq_ok.mp h
    exact ⟨⟨x, hx, hfx⟩, ⟨y, hy, hfy⟩, ⟨z, hz, hfz⟩⟩
  · rintro ⟨⟨x, hx, hfx⟩, ⟨y, hy, hfy⟩, ⟨z, hz, hfz⟩⟩
    exact ⟨_, readFeatures_eq_ok.mpr ⟨x, y, z, ⟨hx, hy, hz⟩, ⟨hfx, hfy, hfz⟩, rfl⟩⟩

theorem readFeatures_fault_iff : (∃ f, readFeatures study sleep tests = .error (.fault f))
    ↔ Value.OverflowsIn IsFeature study sleep tests :=
  Value.read_three_fault_iff (fun _ => exists_congr fun _ => readFeature_eq_ok)
    readFeature_fault_iff fun _ _ _ _ h => nomatch h

/-- Doubles are features when they are finite, and are refused otherwise. -/
theorem readFeatures_reals (x y z : Float) :
    readFeatures (.real x) (.real y) (.real z)
      = if x.isFinite && y.isFinite && z.isFinite then .ok (payloadOf x y z)
        else .error .invalidFeatures := by
  have hread : ∀ x, readFeature (.real x)
      = if x.isFinite then .ok x else .error .invalidFeatures := fun _ => rfl
  unfold readFeatures
  rw [hread, hread, hread]
  cases x.isFinite <;> cases y.isFinite <;> cases z.isFinite <;> rfl

theorem readFeatures_not_refused (e : Error) :
    readFeatures study sleep tests ≠ .error (.refused e) := by
  intro h
  unfold readFeatures at h
  rcases bind_eq_error.mp h with h | ⟨_, _, h⟩
  · exact readFeature_not_refused study e h
  · rcases bind_eq_error.mp h with h | ⟨_, _, h⟩
    · exact readFeature_not_refused sleep e h
    · rcases bind_eq_error.mp h with h | ⟨_, _, h⟩
      · exact readFeature_not_refused tests e h
      · cases h

end

/-! ## predictions -/

/-- A reply that answers a prediction. -/
def AnswersWell (reply : Reply) : Prop :=
  ∃ fields score, Brings fields reply ∧ Value.lookup? "predicted_score" fields = some score

section
variable (c : Client) {replies : List Reply} {study sleep tests : Value}

theorem predict_of_ok (hreply : AnswersWell (replies.headD noReply)) {payload : Value}
    (h : readFeatures study sleep tests = .ok payload) :
    ∃ p, (c.predict study sleep tests replies).result = .ok p := by
  obtain ⟨fields, score, hbrings, hscore⟩ := hreply
  rw [predict_result c replies h, decode_eq_ok.mpr hbrings]
  dsimp only
  unfold Prediction.read
  rw [hscore]
  exact ⟨_, rfl⟩

theorem predict_of_error {e : Failure} (h : readFeatures study sleep tests = .error e) :
    c.predict study sleep tests replies = ⟨.error e, [], replies, []⟩ := by
  unfold Client.predict
  rw [h]

theorem predict_ok_iff (hreply : AnswersWell (replies.headD noReply)) :
    (∃ p, (c.predict study sleep tests replies).result = .ok p)
      ↔ IsFeature study ∧ IsFeature sleep ∧ IsFeature tests := by
  rw [← readFeatures_ok_iff]
  constructor
  · rintro ⟨p, hp⟩
    cases h : readFeatures study sleep tests with
    | error e =>
      rw [predict_of_error c h] at hp
      cases hp
    | ok payload => exact ⟨payload, rfl⟩
  · rintro ⟨payload, h⟩
    exact predict_of_ok c hreply h

theorem predict_fault_iff (hreply : AnswersWell (replies.headD noReply)) :
    (∃ f, (c.predict study sleep tests replies).result = .error (.fault f))
      ↔ Value.OverflowsIn IsFeature study sleep tests := by
  rw [← readFeatures_fault_iff]
  cases h : readFeatures study sleep tests with
  | ok payload =>
    obtain ⟨p, hp⟩ := predict_of_ok c hreply h
    rw [hp]
    refine iff_of_false ?_ ?_
    · rintro ⟨_, h⟩
      cases h
    · rintro ⟨_, h⟩
      cases h
  | error e =>
    rw [predict_of_error c h]
    refine exists_congr fun f => ⟨fun hf => ?_, fun hf => ?_⟩
    · cases hf
      rfl
    · cases hf
      rfl

/-- No request is sent for values that are refused. -/
theorem predict_of_neither (hreply : AnswersWell (replies.headD noReply))
    (hok : ¬ (IsFeature study ∧ IsFeature sleep ∧ IsFeature tests))
    (hfault : ¬ Value.OverflowsIn IsFeature study sleep tests) :
    c.predict study sleep tests replies = ⟨.error .invalidFeatures, [], replies, []⟩ := by
  cases h : readFeatures study sleep tests with
  | ok payload => exact absurd ((predict_ok_iff c hreply).mp (predict_of_ok c hreply h)) hok
  | error e =>
    rw [predict_of_error c h]
    cases e with
    | invalidFeatures => rfl
    | refused e => exact absurd h (readFeatures_not_refused e)
    | fault f => exact absurd (readFeatures_fault_iff.mp ⟨f, h⟩) hfault

end

end AlgebraDesk.Backend

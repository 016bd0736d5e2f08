import AlgebraDesk.Backend.Info
import AlgebraDesk.Proofs.Result
import Mathlib.Data.List.Basic

/-!
# Descriptions that can be read

A backend may send data of any shape.  Which data is a description of models is said here by its
shape alone, without reading it: a part may be missing, and otherwise it has the shape that is asked
for, down to the single model and the single weight.  What has another shape is a fault.

* `MissingOr`      the shape of a part that may be missing;
* `IsSequence`, `IsModel`, `IsPair`, `IsWeighting`   the shapes of the parts;
* `IsDescription`  the shape of the whole;
* `read_ok_iff`    exactly the descriptions are read.
-/

namespace AlgebraDesk.Backend

/-! ## shapes -/

/-- Missing means null, false, zero or empty. -/
def MissingOr (shape : Value → Prop) (v : Value) : Prop := v.isFilled = true → shape v

/-- A value with elements. -/
def IsSequence : Value → Prop
  | .list _ | .text _ | .object _ => True
  | _ => False

inductive IsListOf (shape : Value → Prop) : Value → Prop
  | list {items : List Value} (h : ∀ v ∈ items, shape v) : IsListOf shape (.list items)

/-- The scores of a model may have any shape, the values that it was tested on may not. -/
inductive IsModel : Value → Prop
  | object {fields : List (String × Value)}
      (yTrue : MissingOr IsSequence (fieldOr fields "y_true" .null))
      (yPred : MissingOr IsSequence (fieldOr fields "y_pred" .null)) : IsModel (.object fields)

/-- Two elements of which the first names a feature.  A text of two characters is such a pair, and
so is an object with two keys. -/
inductive IsPair : Value → Prop
  | list {name weight : Value} (h : canName name = true) : IsPair (.list [name, weight])
  | text {s : String} (h : s.length = 2) : IsPair (.text s)
  | object {fields : List (String × Value)} (h : fields.length = 2) : IsPair (.object fields)

inductive IsWeighting : Value → Prop
  | object (fields : List (String × Value)) : IsWeighting (.object fields)
  | list {items : List Value} (h : ∀ v ∈ items, IsPair v) : IsWeighting (.list items)

structure IsDescription (fields : List (String × Value)) : Prop where
  models : MissingOr (IsListOf IsModel) (fieldOr fields "models" .null)
  importance : MissingOr IsWeighting (fieldOr fields "feature_importance" .null)

/-! ## the parts -/

theorem elements_ok_iff (v : Value) : (∃ vs, v.elements = .ok vs) ↔ IsSequence v := by
  cases v with
  | list items => exact ⟨fun _ => trivial, fun _ => ⟨_, rfl⟩⟩
  | text s => exact ⟨fun _ => trivial, fun _ => ⟨_, rfl⟩⟩
  | object fields => exact ⟨fun _ => trivial, fun _ => ⟨_, rfl⟩⟩
  | null | bool _ | int _ | real _ => exact iff_of_false error_ne_ok id

theorem elementsField_ok_iff (fields : List (String × Value)) (key : String) :
    (∃ vs, elementsField fields key = .ok vs)
      ↔ MissingOr IsSequence (fieldOr fields key .null) := by
  unfold elementsField MissingOr
  dsimp only
  cases (fieldOr fields key .null).isFilled with
  | false => exact ⟨fun _ h => absurd h Bool.false_ne_true, fun _ => ⟨[], rfl⟩⟩
  | true =>
    rw [if_pos rfl, elements_ok_iff]
    exact ⟨fun h _ => h, fun h => h rfl⟩

theorem metrics_ok_iff (v : Value) : (∃ m, Metrics.read v = .ok m) ↔ IsModel v := by
  cases v with
  | object fields =>
    constructor
    · rintro ⟨m, h⟩
      obtain ⟨_, hfields, h⟩ := bind_eq_ok.mp h
      cases hfields
      obtain ⟨yTrue, hyTrue, h⟩ := bind_eq_ok.mp h
      obtain ⟨yPred, hyPred, -⟩ := bind_eq_ok.mp h
      exact .object ((elementsField_ok_iff _ _).mp ⟨yTrue, hyTrue⟩)
        ((elementsField_ok_iff _ _).mp ⟨yPred, hyPred⟩)
    · rintro ⟨hyTrue, hyPred⟩
      obtain ⟨yTrue, hyTrue⟩ := (elementsField_ok_iff _ _).mpr hyTrue
      obtain ⟨yPred, hyPred⟩ := (elementsField_ok_iff _ _).mpr hyPred
      unfold Metrics.read Value.entries
      rw [ok_bind, hyTrue, ok_bind, hyPred]
      exact ⟨_, rfl⟩
  | null | bool _ | int _ | real _ | text _ | list _ =>
    exact iff_of_false error_ne_ok fun h => nomatch h

/-- A list has its items as elements; what else has elements has texts, its characters or keys. -/
theorem elements_cases {v : Value} {vs : List Value} (h : v.elements = .ok vs) :
    v = .list vs ∨ ∀ w ∈ vs, ∃ s, w = .text s := by
  cases v with
  | list items =>
    cases h
    exact .inl rfl
  | text s =>
    cases h
    refine .inr fun w hw => ?_
    obtain ⟨c, _, rfl⟩ := List.mem_map.mp hw
    exact ⟨_, rfl⟩
  | object fields =>
    cases h
    refine .inr fun w hw => ?_
    obtain ⟨f, _, rfl⟩ := List.mem_map.mp hw
    exact ⟨_, rfl⟩
  | null | bool _ | int _ | real _ => cases h

theorem elements_ne_nil {v : Value} {vs : List Value} (hfilled : v.isFilled = true)
    (h : v.elements = .ok vs) : vs ≠ [] := by
  rintro rfl
  cases v with
  | list items =>
    cases h
    cases hfilled
  | text s =>
    have hnil : s.toList = [] := List.map_eq_nil_iff.mp (Except.ok.inj h)
    rw [String.toList_eq_nil_iff] at hnil
    subst hnil
    cases hfilled
  | object fields =>
    have hnil : fields = [] := List.map_eq_nil_iff.mp (Except.ok.inj h)
    subst hnil
    cases hfilled
  | null | bool _ | int _ | real _ => cases h

/-- Characters and keys are no models, so models stand in a list. -/
theorem models_ok_iff (fields : List (String × Value)) :
    (∃ ms, (elementsField fields "models" >>= fun vs => vs.mapM Metrics.read) = .ok ms)
      ↔ MissingOr (IsListOf IsModel) (fieldOr fields "models" .null) := by
  unfold elementsField MissingOr
  dsimp only
  generalize fieldOr fields "models" .null = v
  cases hfilled : v.isFilled with
  | false => exact ⟨fun _ h => absurd h Bool.false_ne_true, fun _ => ⟨[], rfl⟩⟩
  | true =>
    rw [if_pos rfl]
    constructor
    · rintro ⟨ms, h⟩ _
      obtain ⟨vs, hvs, h⟩ := bind_eq_ok.mp h
      have hmodels : ∀ w ∈ vs, IsModel w := fun w hw =>
        (metrics_ok_iff w).mp (mapM_ok_iff.mp ⟨ms, h⟩ w hw)
      rcases elements_cases hvs with rfl | htexts
      · exact .list hmodels
      · have hhead := List.head_mem (elements_ne_nil hfilled hvs)
        obtain ⟨s, hs⟩ := htexts _ hhead
        have hmodel := hmodels _ hhead
        rw [hs] at hmodel
        cases hmodel
    · intro h
      cases h rfl with
      | list hitems => exact mapM_ok_iff.mpr fun w hw => (metrics_ok_iff w).mpr (hitems w hw)

/-! ## weights -/

theorem readPair_eq_ok {v : Value} {p : Value × Value} :
    readPair v = .ok p ↔ v.elements = .ok [p.1, p.2] ∧ canName p.1 = true := by
  unfold readPair
  constructor
  · intro h
    obtain ⟨vs, hvs, h⟩ := bind_eq_ok.mp h
    split at h
    · split at h
      · rename_i hname
        cases h
        exact ⟨hvs, hname⟩
      · cases h
    · cases h
  · rintro ⟨hvs, hname⟩
    rw [hvs, ok_bind]
    exact if_pos hname

theorem readPair_ok_iff (v : Value) : (∃ p, readPair v = .ok p) ↔ IsPair v := by
  constructor
  · rintro ⟨⟨name, weight⟩, h⟩
    obtain ⟨hvs, hname⟩ := readPair_eq_ok.mp h
    cases v with
    | list items =>
      cases hvs
      exact .list hname
    | text s =>
      have hlength := congrArg List.length (Except.ok.inj hvs)
      exact .text (by simpa [Value.characters, String.length_toList] using hlength)
    | object fields =>
      have hlength := congrArg List.length (Except.ok.inj hvs)
      exact .object (by simpa using hlength)
    | null | bool _ | int _ | real _ => cases hvs
  · intro h
    cases h with
    | @list name weight h => exact ⟨(name, weight), readPair_eq_ok.mpr ⟨rfl, h⟩⟩
    | @text s h =>
      obtain ⟨c, d, hs⟩ := List.length_eq_two.mp (String.length_toList.trans h)
      refine ⟨(.text c.toString, .text d.toString), readPair_eq_ok.mpr ⟨?_, rfl⟩⟩
      show Except.ok (s.toList.map fun c => Value.text c.toString) = _
      rw [hs]
      rfl
    | @object fields h =>
      obtain ⟨f, g, rfl⟩ := List.length_eq_two.mp h
      exact ⟨(.text f.1, .text g.1), readPair_eq_ok.mpr ⟨rfl, rfl⟩⟩

theorem readWeights_ok_iff (items : List Value) (weights : List (Value × Value)) :
    (∃ ws, items.foldlM (fun weights w => do
        let (name, weight) ← readPair w
        return putWeight name weight weights) weights = .ok ws) ↔ ∀ v ∈ items, IsPair v := by
  refine foldlM_ok_iff (fun ws v => ?_) weights
  rw [← readPair_ok_iff]
  exact exists_bind_eq_ok fun _ => ⟨_, rfl⟩

theorem not_isPair_character {s : String} {v : Value} (h : v ∈ Value.characters s) :
    ¬ IsPair v := by
  obtain ⟨c, _, rfl⟩ := List.mem_map.mp h
  intro hpair
  cases hpair with
  | text h => simp at h

/-- A character is no pair, so weights stand in an object or in a list. -/
theorem readImportance_ok_iff (v : Value) :
    (∃ ws, readImportance v = .ok ws) ↔ MissingOr IsWeighting v := by
  cases hfilled : v.isFilled with
  | false =>
    refine iff_of_true ?_ fun h => absurd (hfilled.symm.trans h) Bool.false_ne_true
    unfold readImportance
    split
    · exact ⟨_, rfl⟩
    · rw [hfilled]
      exact ⟨[], rfl⟩
  | true =>
    have hmissing : MissingOr IsWeighting v ↔ IsWeighting v := ⟨fun h => h hfilled, fun h _ => h⟩
    rw [hmissing]
    cases v with
    | object fields => exact iff_of_true ⟨_, rfl⟩ (.object fields)
    | list items =>
      unfold readImportance
      rw [if_pos hfilled]
      refine (readWeights_ok_iff items []).trans ⟨.list, fun h => ?_⟩
      cases h with
      | list hitems => exact hitems
    | text s =>
      have hne : Value.characters s ≠ [] := elements_ne_nil hfilled rfl
      unfold readImportance
      rw [if_pos hfilled]
      refine iff_of_false (fun h => ?_) fun h => ?_
      · have hpairs := (readWeights_ok_iff (Value.characters s) []).mp h
        have hhead := List.head_mem hne
        exact not_isPair_character hhead (hpairs _ hhead)
      · cases h
    | null | bool _ | int _ | real _ =>
      unfold readImportance
      rw [if_pos hfilled]
      exact iff_of_false error_ne_ok fun h => nomatch h

/-! ## the whole -/

/-- **Exactly the descriptions are read.** -/
theorem read_ok_iff (fields : List (String × Value)) :
    (∃ info, Info.read fields = .ok info) ↔ IsDescription fields := by
  constructor
  · rintro ⟨info, h⟩
    obtain ⟨vs, hvs, h⟩ := bind_eq_ok.mp h
    obtain ⟨ms, hms, h⟩ := bind_eq_ok.mp h
    obtain ⟨ws, hws, -⟩ := bind_eq_ok.mp h
    refine ⟨(models_ok_iff fields).mp ⟨ms, ?_⟩, (readImportance_ok_iff _).mp ⟨ws, hws⟩⟩
    rw [hvs]
    exact hms
  · rintro ⟨hmodels, himportance⟩
    obtain ⟨ms, hms⟩ := (models_ok_iff fields).mpr hmodels
    obtain ⟨vs, hvs, hms⟩ := bind_eq_ok.mp hms
    obtain ⟨ws, hws⟩ := (readImportance_ok_iff _).mpr himportance
    unfold Info.read
    rw [hvs, ok_bind, hms, ok_bind, hws]
    exact ⟨_, rfl⟩

end AlgebraDesk.Backend

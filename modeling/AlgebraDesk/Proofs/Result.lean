/-!
# Runs that can fail

Every part of the desk runs in steps that succeed or fail, often one for each item of a list.

* `bind_eq_ok`, `bind_eq_error`   how a step followed by others succeeds, and how it fails;
* `mapM_ok_iff`, `foldlM_ok_iff`   a run succeeds when each of its steps does;
* `mapM_eq_pure`      what a run of such steps gives;
* `foldlM_preserves`  what every step of a run preserves, the run preserves;
* `foldlM_error`      a run that fails fails at one of its steps;
* `foldlM_mapError`   errors of another kind at each step are such errors of the run.
-/

namespace AlgebraDesk

section
variable {ε α β σ : Type}

@[simp] theorem ok_bind (a : α) (f : α → Except ε β) : (.ok a >>= f) = f a := rfl

theorem bind_eq_ok {x : Except ε α} {f : α → Except ε β} {r : β} :
    (x >>= f) = .ok r ↔ ∃ a, x = .ok a ∧ f a = .ok r := by
  cases x with
  | error e =>
    constructor
    · intro h
      cases h
    · rintro ⟨_, h, _⟩
      cases h
  | ok a =>
    constructor
    · exact fun h => ⟨a, rfl, h⟩
    · rintro ⟨b, h, hf⟩
      cases h
      exact hf

theorem error_ne_ok {e : ε} : ¬ ∃ a, (.error e : Except ε α) = .ok a := by
  rintro ⟨_, h⟩
  cases h

/-- A step that is followed only by what always succeeds. -/
theorem exists_bind_eq_ok {x : Except ε α} {f : α → Except ε β} (hf : ∀ a, ∃ r, f a = .ok r) :
    (∃ r, (x >>= f) = .ok r) ↔ ∃ a, x = .ok a := by
  constructor
  · rintro ⟨_, h⟩
    obtain ⟨a, ha, -⟩ := bind_eq_ok.mp h
    exact ⟨a, ha⟩
  · rintro ⟨a, rfl⟩
    exact hf a

theorem bind_eq_error {x : Except ε α} {f : α → Except ε β} {e : ε} :
    (x >>= f) = .error e ↔ x = .error e ∨ ∃ a, x = .ok a ∧ f a = .error e := by
  cases x with
  | error e' =>
    constructor
    · intro h
      cases h
      exact .inl rfl
    · rintro (h | ⟨_, h, _⟩)
      · cases h
        rfl
      · cases h
  | ok a =>
    constructor
    · exact fun h => .inr ⟨a, rfl, h⟩
    · rintro (h | ⟨_, h, hf⟩)
      · cases h
      · cases h
        exact hf

theorem mapM_ok_iff {f : α → Except ε β} {as : List α} :
    (∃ bs, as.mapM f = .ok bs) ↔ ∀ a ∈ as, ∃ b, f a = .ok b := by
  induction as with
  | nil => exact ⟨fun _ a ha => absurd ha List.not_mem_nil, fun _ => ⟨[], rfl⟩⟩
  | cons a as ih =>
    rw [List.mapM_cons, List.forall_mem_cons]
    constructor
    · rintro ⟨_, h⟩
      obtain ⟨b, hb, h⟩ := bind_eq_ok.mp h
      obtain ⟨bs, hbs, -⟩ := bind_eq_ok.mp h
      exact ⟨⟨b, hb⟩, ih.mp ⟨bs, hbs⟩⟩
    · rintro ⟨⟨b, hb⟩, has⟩
      obtain ⟨bs, hbs⟩ := ih.mpr has
      rw [hb, ok_bind, hbs]
      exact ⟨b :: bs, rfl⟩

/-- A run of steps that all succeed. -/
theorem mapM_eq_pure {m : Type → Type} [Monad m] [LawfulMonad m] {f : α → m β} {g : α → β}
    {as : List α} (h : ∀ a ∈ as, f a = pure (g a)) : as.mapM f = pure (as.map g) := by
  induction as with
  | nil => rfl
  | cons a as ih =>
    obtain ⟨ha, has⟩ := List.forall_mem_cons.mp h
    rw [List.mapM_cons, ha, ih has, pure_bind, pure_bind, List.map_cons]

/-- The steps of a run whose success does not depend on what came before. -/
theorem foldlM_ok_iff {P : α → Prop} {step : σ → α → Except ε σ}
    (hstep : ∀ s a, (∃ s', step s a = .ok s') ↔ P a) {as : List α} (s : σ) :
    (∃ s', as.foldlM step s = .ok s') ↔ ∀ a ∈ as, P a := by
  induction as generalizing s with
  | nil => exact ⟨fun _ a ha => absurd ha List.not_mem_nil, fun _ => ⟨s, rfl⟩⟩
  | cons a as ih =>
    rw [List.foldlM_cons, List.forall_mem_cons]
    constructor
    · rintro ⟨s', h⟩
      obtain ⟨s₁, h₁, h₂⟩ := bind_eq_ok.mp h
      exact ⟨(hstep s a).mp ⟨s₁, h₁⟩, (ih s₁).mp ⟨s', h₂⟩⟩
    · rintro ⟨ha, has⟩
      obtain ⟨s₁, h₁⟩ := (hstep s a).mpr ha
      rw [h₁]
      exact (ih s₁).mpr has

theorem foldlM_preserves {P : σ → Prop} {step : σ → α → Except ε σ} {as : List α}
    (hstep : ∀ s, P s → ∀ a ∈ as, ∀ s', step s a = .ok s' → P s') :
    ∀ s, P s → ∀ s', as.foldlM step s = .ok s' → P s' := by
  induction as with
  | nil =>
    intro s hs s' h
    cases h
    exact hs
  | cons a as ih =>
    intro s hs s' h
    rw [List.foldlM_cons] at h
    obtain ⟨s₁, h₁, h₂⟩ := bind_eq_ok.mp h
    exact ih (fun s hs b hb => hstep s hs b (List.mem_cons_of_mem _ hb)) s₁
      (hstep s hs a List.mem_cons_self s₁ h₁) s' h₂

theorem foldlM_error {step : σ → α → Except ε σ} {as : List α} {e : ε} :
    ∀ {s : σ}, as.foldlM step s = .error e → ∃ a ∈ as, ∃ s', step s' a = .error e := by
  induction as with
  | nil =>
    intro s h
    cases h
  | cons a as ih =>
    intro s h
    rw [List.foldlM_cons] at h
    cases hs : step s a with
    | error e' =>
      rw [hs] at h
      cases h
      exact ⟨a, List.mem_cons_self, s, hs⟩
    | ok s₁ =>
      rw [hs] at h
      obtain ⟨b, hb, s', h'⟩ := ih (s := s₁) h
      exact ⟨b, List.mem_cons_of_mem _ hb, s', h'⟩

theorem foldlM_congr {step step' : σ → α → Except ε σ} {as : List α}
    (h : ∀ s, ∀ a ∈ as, step s a = step' s a) (s : σ) : as.foldlM step s = as.foldlM step' s := by
  induction as generalizing s with
  | nil => rfl
  | cons a as ih =>
    rw [List.foldlM_cons, List.foldlM_cons, h s a List.mem_cons_self]
    exact congrArg _ (funext (ih (fun s b hb => h s b (List.mem_cons_of_mem _ hb))))

/-! ## errors of another kind -/

variable {ε' : Type} {r : ε → ε'}

@[simp] theorem mapError_ok (a : α) : (Except.ok a).mapError r = .ok a := rfl

@[simp] theorem mapError_error (e : ε) : (Except.error e : Except ε α).mapError r = .error (r e) :=
  rfl

theorem mapError_bind (x : Except ε α) (f : α → Except ε β) :
    (x >>= f).mapError r = x.mapError r >>= fun a => (f a).mapError r := by
  cases x <;> rfl

theorem foldlM_mapError {step : σ → α → Except ε σ} (as : List α) (s : σ) :
    as.foldlM (fun s a => (step s a).mapError r) s = (as.foldlM step s).mapError r := by
  induction as generalizing s with
  | nil => rfl
  | cons a as ih =>
    rw [List.foldlM_cons, List.foldlM_cons, mapError_bind]
    exact congrArg _ (funext ih)

end

end AlgebraDesk

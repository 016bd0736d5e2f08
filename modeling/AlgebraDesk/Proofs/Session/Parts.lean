import AlgebraDesk.Proofs.Session

/-!
# The parts of a session

An action is about one part of a session, or about none.  Here the actions are written once more as
they go along: a part is assigned as soon as its new value is there, what is said about it comes
after that, and a failure leaves the session as it stands at that moment.  A playback is assigned,
and its next term revealed, before the sentence about it is made; so a failure in between would be
seen afterwards.  In a session that is reached there is none.

* `Part`, `Action.part?`   the parts, and the one that an action is about;
* `Assigning`, `assign`    the actions as they go along;
* `assign_other`           no other part is changed, whether the action succeeds or fails;
* `assign_local`           what an action does depends on its own part only;
* `assign_comm`            actions on different parts commute;
* `assign_eq_act`          in a sound session nothing is assigned by an action that fails;
* `Reached`, `framed_of_reached`   all of it for the sessions that are reached.
-/

namespace AlgebraDesk.Session

open Fibonacci (Playback count? fibValues)

inductive Part where
  | quadratic | playback | challenge | modelInfo
  deriving DecidableEq, Repr

/-- The part that an action is about. -/
def Action.part? : Action → Option Part
  | .solve .. | .solveExample | .solveReset => some .quadratic
  | .generate _ | .next | .forgetPlayback => some .playback
  | .draw .. | .setChallenge _ => some .challenge
  | .explain | .answer _ => none

/-- Two sessions have the same in a part. -/
def Agrees (s t : Session) : Part → Prop
  | .quadratic => s.quadratic? = t.quadratic?
  | .playback => s.playback? = t.playback?
  | .challenge => s.challenge? = t.challenge?
  | .modelInfo => s.modelInfo? = t.modelInfo?

theorem Agrees.refl (s : Session) (p : Part) : s.Agrees s p := by
  cases p <;> rfl

theorem Agrees.symm {s t : Session} {p : Part} (h : s.Agrees t p) : t.Agrees s p := by
  cases p <;> exact Eq.symm h

theorem Agrees.trans {s t u : Session} {p : Part} (h : s.Agrees t p) (h' : t.Agrees u p) :
    s.Agrees u p := by
  cases p <;> exact Eq.trans h h'

/-- A session is its parts. -/
theorem eq_of_agrees {s t : Session} (h : ∀ p, s.Agrees t p) : s = t := by
  obtain ⟨quadratic?, playback?, challenge?, modelInfo?⟩ := s
  have hquadratic : quadratic? = t.quadratic? := h .quadratic
  have hplayback : playback? = t.playback? := h .playback
  have hchallenge : challenge? = t.challenge? := h .challenge
  have hmodelInfo : modelInfo? = t.modelInfo? := h .modelInfo
  rw [hquadratic, hplayback, hchallenge, hmodelInfo]

/-! ## actions as they go along -/

/-- Steps that may fail, on a session that stays as it stands. -/
abbrev Assigning (α : Type) := ExceptT Failure (StateM Session) α

namespace Assigning

/-- A step that may fail and assigns nothing. -/
def attempt {α : Type} (x : Except Failure α) : Assigning α := fun s => (x, s)

def assignQuadratic (q : Quadratic.Solution) : Assigning Unit :=
  modify fun s => { s with quadratic? := some q }

def assignPlayback (p? : Option Playback) : Assigning Unit :=
  modify fun s => { s with playback? := p? }

def assignChallenge (c : Challenge) : Assigning Unit :=
  modify fun s => { s with challenge? := some c }

def solve (places : Int) (k : Value × Value × Value) : Assigning Outcome := do
  let q ← attempt ((Quadratic.solveValues places k.1 k.2.1 k.2.2).mapError .ofQuadratic)
  assignQuadratic q
  return .solved q

/-- The playback is there before the sentence about it. -/
def present (p : Playback) : Assigning Outcome := do
  assignPlayback (some p)
  return .said (← attempt (p.render.mapError .fault))

def generate (count : Value) : Assigning Outcome := do
  let r ← attempt ((Fibonacci.generate count).mapError .ofFibonacci)
  present (.start (Fibonacci.values r.terms))

def next : Assigning Outcome := do
  match (← get).playback? with
  | none => generate (.int Fibonacci.defaultTerms)
  | some p => present p.next

def perform (places : Int) : Action → Assigning Outcome
  | .solve a b c => solve places (a, b, c)
  | .solveExample => solve places exampleCoefficients
  | .solveReset => solve places resetCoefficients
  | .generate count => generate count
  | .next => next
  | .forgetPlayback => do
    assignPlayback none
    return .nothing
  | .explain => do
    return .said (← attempt ((Session.explain places (← get)).mapError .fault))
  | .answer given => do
    let (verdict, text) := Challenge.grade (← get).challenge? given
    return .graded verdict text
  | .draw number index => do
    assignChallenge (.ofDraws number index)
    return .nothing
  | .setChallenge c => do
    assignChallenge c
    return .nothing

end Assigning

/-- The outcome of an action that goes along, and the session that it leaves. -/
def assign (places : Int) (s : Session) (a : Action) : Except Failure Outcome × Session :=
  Assigning.perform places a s

section
variable {places : Int} {s t : Session} {p : Part} {a b : Action}

/-! ## what is assigned -/

theorem solve_apply (places : Int) (k : Value × Value × Value) (s : Session) :
    Assigning.solve places k s = match Quadratic.solveValues places k.1 k.2.1 k.2.2 with
      | .ok q => (.ok (.solved q), { s with quadratic? := some q })
      | .error e => (.error (.ofQuadratic e), s) := by
  unfold Assigning.solve
  cases Quadratic.solveValues places k.1 k.2.1 k.2.2 with
  | ok q => rfl
  | error e => rfl

theorem present_apply (p : Playback) (s : Session) :
    Assigning.present p s
      = ((p.render.mapError Failure.fault).map Outcome.said, { s with playback? := some p }) := by
  unfold Assigning.present
  cases p.render with
  | ok text => rfl
  | error f => rfl

theorem generate_apply (count : Value) (s : Session) :
    Assigning.generate count s = match count? count with
      | some n => Assigning.present (.start (fibValues n)) s
      | none => (.error (.fibonacci .invalidCount), s) := by
  unfold Assigning.generate
  rw [Fibonacci.generate_eq]
  cases count? count with
  | none => rfl
  | some n =>
    show Assigning.present (.start (Fibonacci.values (Fibonacci.terms n))) s = _
    rw [Fibonacci.values_terms]

theorem next_apply (s : Session) :
    Assigning.next s = match s.playback? with
      | none => Assigning.generate (.int Fibonacci.defaultTerms) s
      | some p => Assigning.present p.next s := by
  unfold Assigning.next
  show (match s.playback? with
    | none => Assigning.generate (.int Fibonacci.defaultTerms)
    | some p => Assigning.present p.next : Assigning Outcome) s = _
  cases s.playback? with
  | none => rfl
  | some p => rfl

theorem explain_apply (places : Int) (s : Session) :
    Assigning.perform places .explain s
      = (((explain places s).mapError Failure.fault).map Outcome.said, s) := by
  show (ExceptT.bindCont (m := StateM Session) (fun text => pure (Outcome.said text))
    ((explain places s).mapError Failure.fault)) s = _
  cases explain places s with
  | ok text => rfl
  | error f => rfl

/-! ## other parts -/

theorem agrees_with_quadratic (s : Session) (q? : Option Quadratic.Solution)
    (h : p ≠ .quadratic) : Agrees { s with quadratic? := q? } s p := by
  cases p with
  | quadratic => exact absurd rfl h
  | playback | challenge | modelInfo => rfl

theorem agrees_with_playback (s : Session) (p? : Option Playback) (h : p ≠ .playback) :
    Agrees { s with playback? := p? } s p := by
  cases p with
  | playback => exact absurd rfl h
  | quadratic | challenge | modelInfo => rfl

theorem agrees_with_challenge (s : Session) (c? : Option Challenge) (h : p ≠ .challenge) :
    Agrees { s with challenge? := c? } s p := by
  cases p with
  | challenge => exact absurd rfl h
  | quadratic | playback | modelInfo => rfl

theorem solve_other (places : Int) (k : Value × Value × Value) (s : Session)
    (h : p ≠ .quadratic) : (Assigning.solve places k s).2.Agrees s p := by
  rw [solve_apply]
  cases Quadratic.solveValues places k.1 k.2.1 k.2.2 with
  | ok q => exact agrees_with_quadratic s (some q) h
  | error e => exact .refl s p

theorem generate_other (count : Value) (s : Session) (h : p ≠ .playback) :
    (Assigning.generate count s).2.Agrees s p := by
  rw [generate_apply]
  cases count? count with
  | none => exact .refl s p
  | some n =>
    show (Assigning.present (.start (fibValues n)) s).2.Agrees s p
    rw [present_apply]
    exact agrees_with_playback s _ h

theorem next_other (s : Session) (h : p ≠ .playback) : (Assigning.next s).2.Agrees s p := by
  rw [next_apply]
  cases s.playback? with
  | none => exact generate_other _ s h
  | some q =>
    show (Assigning.present q.next s).2.Agrees s p
    rw [present_apply]
    exact agrees_with_playback s _ h

/-- **No other part is changed**, whether the action succeeds or fails. -/
theorem assign_other (places : Int) (s : Session) (h : a.part? ≠ some p) :
    (assign places s a).2.Agrees s p := by
  have hne : ∀ q, a.part? = some q → p ≠ q := by
    rintro q hq rfl
    exact h hq
  cases a with
  | solve a b c => exact solve_other places _ s (hne _ rfl)
  | solveExample => exact solve_other places _ s (hne _ rfl)
  | solveReset => exact solve_other places _ s (hne _ rfl)
  | generate count => exact generate_other count s (hne _ rfl)
  | next => exact next_other s (hne _ rfl)
  | forgetPlayback => exact agrees_with_playback s none (hne _ rfl)
  | explain =>
    show (Assigning.perform places .explain s).2.Agrees s p
    rw [explain_apply]
    exact .refl s p
  | answer given => exact .refl s p
  | draw number index => exact agrees_with_challenge s _ (hne _ rfl)
  | setChallenge c => exact agrees_with_challenge s _ (hne _ rfl)

/-! ## the own part -/

theorem solve_local (places : Int) (k : Value × Value × Value) (h : s.Agrees t .quadratic) :
    (Assigning.solve places k s).1 = (Assigning.solve places k t).1 ∧
    (Assigning.solve places k s).2.Agrees (Assigning.solve places k t).2 .quadratic := by
  rw [solve_apply, solve_apply]
  cases Quadratic.solveValues places k.1 k.2.1 k.2.2 with
  | ok q => exact ⟨rfl, rfl⟩
  | error e => exact ⟨rfl, h⟩

theorem present_local (q : Playback) (s t : Session) :
    (Assigning.present q s).1 = (Assigning.present q t).1 ∧
    (Assigning.present q s).2.Agrees (Assigning.present q t).2 .playback := by
  rw [present_apply, present_apply]
  exact ⟨rfl, rfl⟩

theorem generate_local (count : Value) (h : s.Agrees t .playback) :
    (Assigning.generate count s).1 = (Assigning.generate count t).1 ∧
    (Assigning.generate count s).2.Agrees (Assigning.generate count t).2 .playback := by
  rw [generate_apply, generate_apply]
  cases count? count with
  | none => exact ⟨rfl, h⟩
  | some n => exact present_local _ s t

theorem next_local (h : s.Agrees t .playback) :
    (Assigning.next s).1 = (Assigning.next t).1 ∧
    (Assigning.next s).2.Agrees (Assigning.next t).2 .playback := by
  have hsame : s.playback? = t.playback? := h
  rw [next_apply, next_apply, hsame]
  cases t.playback? with
  | none => exact generate_local _ h
  | some q => exact present_local q.next s t

/-- **What an action does depends on its own part only.** -/
theorem assign_local (places : Int) (ha : a.part? = some p) (h : s.Agrees t p) :
    (assign places s a).1 = (assign places t a).1 ∧
    (assign places s a).2.Agrees (assign places t a).2 p := by
  cases a with
  | solve x y z =>
    cases ha
    exact solve_local places _ h
  | solveExample =>
    cases ha
    exact solve_local places _ h
  | solveReset =>
    cases ha
    exact solve_local places _ h
  | generate count =>
    cases ha
    exact generate_local count h
  | next =>
    cases ha
    exact next_local h
  | forgetPlayback =>
    cases ha
    exact ⟨rfl, rfl⟩
  | explain => cases ha
  | answer given => cases ha
  | draw number index =>
    cases ha
    exact ⟨rfl, rfl⟩
  | setChallenge c =>
    cases ha
    exact ⟨rfl, rfl⟩

/-- **Actions on different parts commute**: in either order both have the outcomes that they have
alone, and the same session is left. -/
theorem assign_comm (places : Int) {q : Part} (ha : a.part? = some p) (hb : b.part? = some q)
    (hne : p ≠ q) (s : Session) :
    (assign places (assign places s b).2 a).1 = (assign places s a).1 ∧
    (assign places (assign places s a).2 b).1 = (assign places s b).1 ∧
    (assign places (assign places s a).2 b).2 = (assign places (assign places s b).2 a).2 := by
  have hnotA : ∀ r, r ≠ p → a.part? ≠ some r := by
    rintro r hr h
    rw [ha] at h
    exact hr (Option.some.inj h).symm
  have hnotB : ∀ r, r ≠ q → b.part? ≠ some r := by
    rintro r hr h
    rw [hb] at h
    exact hr (Option.some.inj h).symm
  -- each action finds its own part as it was
  have hlocalA := assign_local places ha (assign_other places s (hnotB p hne))
  have hlocalB := assign_local places hb (assign_other places s (hnotA q hne.symm))
  refine ⟨hlocalA.1, hlocalB.1, eq_of_agrees fun r => ?_⟩
  by_cases hp : r = p
  · subst hp
    exact (assign_other places _ (hnotB r hne)).trans hlocalA.2.symm
  · by_cases hq : r = q
    · subst hq
      exact hlocalB.2.trans (assign_other places _ (hnotA r hp)).symm
    · have hleft := (assign_other places (assign places s a).2 (hnotB r hq)).trans
        (assign_other places s (hnotA r hp))
      have hright := (assign_other places (assign places s b).2 (hnotA r hp)).trans
        (assign_other places s (hnotB r hq))
      exact hleft.trans hright.symm

/-! ## sound sessions -/

theorem act_of_error {e : Failure} (h : (act places s a).1 = .error e) :
    (act places s a).2 = s := by
  unfold act at h ⊢
  cases hs : perform places s a with
  | error e' => rfl
  | ok r =>
    rw [hs] at h
    cases h

theorem solve_eq_act (k : Value × Value × Value) (s : Session) {a : Action}
    (ha : perform places s a = solve places s k) :
    Assigning.solve places k s = act places s a := by
  rw [solve_apply]
  unfold act
  rw [ha]
  unfold Session.solve
  cases Quadratic.solveValues places k.1 k.2.1 k.2.2 with
  | ok q => rfl
  | error e => rfl

/-- The sentence about a playback of the first terms can be made. -/
theorem present_plays {q : Playback} {n : Nat} (h : q.Plays n) (s : Session) :
    ∃ text, q.render = .ok text ∧
      Assigning.present q s = (.ok (.said text), { s with playback? := some q }) := by
  obtain ⟨text, htext⟩ := h.render
  refine ⟨text, htext, ?_⟩
  rw [present_apply, htext]
  rfl

theorem generate_eq_act (places : Int) (count : Value) (s : Session) :
    Assigning.generate count s = act places s (.generate count) := by
  rw [generate_apply]
  unfold act
  rw [perform_generate]
  cases hcount : count? count with
  | none => rw [generate_refused s hcount]
  | some n =>
    obtain ⟨text, htext, hpresent⟩ :=
      present_plays (Playback.plays_start (Fibonacci.count?_range hcount).1) s
    rw [generate_of_render s hcount htext]
    exact hpresent

theorem next_eq_act (h : s.Sound places) : Assigning.next s = act places s .next := by
  rw [next_apply]
  cases hs : s.playback? with
  | none =>
    have hstart : next s = generate s (.int Fibonacci.defaultTerms) := by
      unfold next
      rw [hs]
    show Assigning.generate (.int Fibonacci.defaultTerms) s = act places s .next
    rw [generate_eq_act places]
    unfold act
    rw [perform_next, perform_generate, hstart]
  | some q =>
    obtain ⟨n, _, _, hq⟩ := h.playback q hs
    obtain ⟨text, htext, hpresent⟩ := present_plays hq.next s
    rw [act_of_perform ((perform_next places s).trans (next_of_render hs htext))]
    exact hpresent

theorem explain_eq_act (places : Int) (s : Session) :
    Assigning.perform places .explain s = act places s .explain := by
  rw [explain_apply]
  unfold act perform
  cases explain places s with
  | ok text => rfl
  | error f => rfl

/-- **A sound session is left as it was by an action that fails**: what has been assigned by then
is nothing. -/
theorem assign_eq_act (h : s.Sound places) (a : Action) : assign places s a = act places s a := by
  cases a with
  | solve x y z => exact solve_eq_act (x, y, z) s rfl
  | solveExample => exact solve_eq_act exampleCoefficients s rfl
  | solveReset => exact solve_eq_act resetCoefficients s rfl
  | generate count => exact generate_eq_act places count s
  | next => exact next_eq_act h
  | explain => exact explain_eq_act places s
  | forgetPlayback | answer _ | draw _ _ | setChallenge _ => rfl

/-! ## sessions that are reached -/

/-- What a run leads to from an empty session; the description of the models is put into it from
outside, at any time. -/
inductive Reached (places : Int) : Session → Prop
  | empty : Reached places {}
  | assign {s : Session} (h : Reached places s) (a : Action) :
    Reached places (assign places s a).2
  | inform {s : Session} (h : Reached places s) (info : Backend.Info) :
    Reached places { s with modelInfo? := some info }

theorem Reached.sound (h : Reached places s) : s.Sound places := by
  induction h with
  | empty => exact sound_empty places
  | assign _ a ih =>
    rw [assign_eq_act ih a]
    exact act_sound ih a
  | inform _ info ih => exact ⟨ih.playback, ih.quadratic⟩

/-- **In a session that is reached, an action that fails changes nothing**, and one that succeeds
changes at most the part that it is about; one that is about no part changes nothing.  So actions on
different parts commute. -/
theorem framed_of_reached (h : Reached places s) (a : Action) :
    assign places s a = act places s a ∧
    (∀ e, (assign places s a).1 = .error e → (assign places s a).2 = s) ∧
    (∀ p, a.part? ≠ some p → (assign places s a).2.Agrees s p) ∧
    (a.part? = none → (assign places s a).2 = s) ∧
    ∀ (b : Action) (p q : Part), a.part? = some p → b.part? = some q → p ≠ q →
      (assign places (assign places s b).2 a).1 = (assign places s a).1 ∧
      (assign places (assign places s a).2 b).1 = (assign places s b).1 ∧
      (assign places (assign places s a).2 b).2 = (assign places (assign places s b).2 a).2 := by
  have hact := assign_eq_act h.sound a
  refine ⟨hact, fun e he => ?_, fun p hp => assign_other places s hp, fun hnone => ?_,
    fun b p q ha hb hne => assign_comm places ha hb hne s⟩
  · rw [hact] at he ⊢
    exact act_of_error he
  · refine eq_of_agrees fun p => assign_other places s ?_
    rw [hnone]
    exact (Option.some_ne_none p).symm

/-- A count that is refused, with a playback begun and a challenge open. -/
theorem framed_refused_count :
    let c := Challenge.ofSequence [0, 1, 1, 2, 3] 5
    let s : Session := { playback? := some (.start (fibValues 5)), challenge? := some c }
    Reached 4 s ∧
    (assign 4 s (.generate (.int 1))).1 = .error (.fibonacci .invalidCount) ∧
    (assign 4 s (.generate (.int 1))).2 = s ∧
    (assign 4 (assign 4 s (.generate (.int 1))).2 (.setChallenge c)).2
      = (assign 4 (assign 4 s (.setChallenge c)).2 (.generate (.int 1))).2 := by
  intro c s
  have hstart : (assign 4 { challenge? := some c } (.generate (.int 5))).2 = s := by
    show (Assigning.generate (.int 5) { challenge? := some c }).2 = s
    rw [generate_apply, show count? (.int 5) = some 5 by decide]
    show (Assigning.present (.start (fibValues 5)) { challenge? := some c }).2 = s
    rw [present_apply]
  have hreached : Reached 4 s := by
    rw [← hstart]
    exact (Reached.empty.assign (.setChallenge c)).assign (.generate (.int 5))
  have hrefused : (assign 4 s (.generate (.int 1))).1 = .error (.fibonacci .invalidCount) := by
    show (Assigning.generate (.int 1) s).1 = _
    rw [generate_apply, show count? (.int 1) = none by decide]
  obtain ⟨-, herror, -, -, hcomm⟩ := framed_of_reached hreached (.generate (.int 1))
  exact ⟨hreached, hrefused, herror _ hrefused,
    (hcomm (.setChallenge c) .playback .challenge rfl rfl (by decide)).2.2⟩

end

end AlgebraDesk.Session

import AlgebraDesk.Proofs.Fibonacci.Playback
import AlgebraDesk.Proofs.Quadratic
import AlgebraDesk.Session

/-!
# What a session remembers

Whatever is done in a session, its playback plays the first terms of the sequence with two or more
of them visible, and its quadratic is the answer for its own coefficients.  An action that fails
changes nothing.  So what a session remembers can always be explained: once three terms are visible
there is a latest ratio to read.

* `Sound`           what holds of every session;
* `act_sound`, `run_sound`   one action keeps it, and so does every run;
* `explain_eq_ok`   a sound session is explained;
* `sound_of_reached`   all of it for the sessions that are reached.
-/

namespace AlgebraDesk.Session

open Fibonacci (Playback count? fibValues)

structure Sound (places : Int) (s : Session) : Prop where
  playback : ∀ p, s.playback? = some p → ∃ n, 2 ≤ n ∧ n ≤ 25 ∧ p.Plays n
  quadratic : ∀ q, s.quadratic? = some q → q.IsSolved places

theorem sound_empty (places : Int) : Sound places {} where
  playback := by
    intro p hp
    cases hp
  quadratic := by
    intro q hq
    cases hq

section
variable {places : Int} {s s' : Session} {o : Outcome}

/-! ## the actions one by one -/

theorem Sound.with_quadratic (h : s.Sound places) {q : Quadratic.Solution}
    (hq : q.IsSolved places) : Sound places { s with quadratic? := some q } where
  playback := h.playback
  quadratic := by
    intro r hr
    cases hr
    exact hq

theorem Sound.with_playback (h : s.Sound places) {p : Playback} {n : Nat} (hmin : 2 ≤ n)
    (hmax : n ≤ 25) (hp : p.Plays n) : Sound places { s with playback? := some p } where
  playback := by
    intro r hr
    cases hr
    exact ⟨n, hmin, hmax, hp⟩
  quadratic := h.quadratic

theorem Sound.with_challenge (h : s.Sound places) (c? : Option Challenge) :
    Sound places { s with challenge? := c? } :=
  ⟨h.playback, h.quadratic⟩

theorem Sound.without_playback (h : s.Sound places) :
    Sound places { s with playback? := none } where
  playback := by
    intro p hp
    cases hp
  quadratic := h.quadratic

theorem solve_sound (h : s.Sound places) {k : Value × Value × Value}
    (hs : solve places s k = .ok (o, s')) : s'.Sound places := by
  obtain ⟨q, hq, hs⟩ := bind_eq_ok.mp hs
  cases hs
  refine h.with_quadratic ?_
  cases hsolve : Quadratic.solveValues places k.1 k.2.1 k.2.2 with
  | error e =>
    rw [hsolve] at hq
    cases hq
  | ok r =>
    rw [hsolve] at hq
    cases hq
    exact Quadratic.isSolved_of_solveValues hsolve

/-- A count out of range is refused, and it is the only reason to refuse. -/
theorem generate_refused (s : Session) {v : Value} (h : count? v = none) :
    generate s v = .error (.fibonacci .invalidCount) := by
  unfold generate
  rw [Fibonacci.generate_eq, h]
  rfl

theorem generate_of_render (s : Session) {v : Value} {n : Nat} {text : String}
    (h : count? v = some n) (htext : (Playback.start (fibValues n)).render = .ok text) :
    generate s v = .ok (.said text, { s with playback? := some (.start (fibValues n)) }) := by
  unfold generate
  rw [Fibonacci.generate_eq, h]
  show ((Playback.start (Fibonacci.values (Fibonacci.terms n))).render.mapError Failure.fault
    >>= fun text => _) = _
  rw [Fibonacci.values_terms, htext]
  rfl

theorem generate_accepted (s : Session) {v : Value} {n : Nat} (h : count? v = some n) :
    ∃ text, generate s v
      = .ok (.said text, { s with playback? := some (.start (fibValues n)) }) := by
  obtain ⟨text, htext⟩ := (Playback.plays_start (Fibonacci.count?_range h).1).render
  exact ⟨text, generate_of_render s h htext⟩

theorem generate_sound (h : s.Sound places) {v : Value} (hs : generate s v = .ok (o, s')) :
    s'.Sound places := by
  cases hv : count? v with
  | none =>
    rw [generate_refused s hv] at hs
    cases hs
  | some n =>
    obtain ⟨text, hgenerate⟩ := generate_accepted s hv
    rw [hgenerate] at hs
    cases hs
    obtain ⟨hmin, hmax⟩ := Fibonacci.count?_range hv
    exact h.with_playback hmin hmax (Playback.plays_start hmin)

theorem next_of_render {p : Playback} {text : String} (hs : s.playback? = some p)
    (htext : p.next.render = .ok text) :
    next s = .ok (.said text, { s with playback? := some p.next }) := by
  unfold next Playback.advance
  rw [hs]
  show ((p.next.render >>= fun text => .ok (text, p.next)).mapError Failure.fault
    >>= fun step => _) = _
  rw [htext]
  rfl

/-- A step of a playback never fails. -/
theorem next_advances {p : Playback} {n : Nat} (hs : s.playback? = some p) (hp : p.Plays n) :
    ∃ text, next s = .ok (.said text, { s with playback? := some p.next }) := by
  obtain ⟨text, htext⟩ := hp.next.render
  exact ⟨text, next_of_render hs htext⟩

theorem next_sound (h : s.Sound places) (hs : next s = .ok (o, s')) : s'.Sound places := by
  cases hp : s.playback? with
  | none =>
    unfold next at hs
    rw [hp] at hs
    exact generate_sound h hs
  | some p =>
    obtain ⟨n, hmin, hmax, hplays⟩ := h.playback p hp
    obtain ⟨text, hnext⟩ := next_advances hp hplays
    rw [hnext] at hs
    cases hs
    exact h.with_playback hmin hmax hplays.next

/-! ## runs -/

theorem perform_sound (h : s.Sound places) {a : Action}
    (hs : perform places s a = .ok (o, s')) : s'.Sound places := by
  cases a with
  | solve a b c => exact solve_sound h hs
  | solveExample => exact solve_sound h hs
  | solveReset => exact solve_sound h hs
  | generate count => exact generate_sound h hs
  | next => exact next_sound h hs
  | forgetPlayback =>
    cases hs
    exact h.without_playback
  | explain =>
    obtain ⟨text, _, hs⟩ := bind_eq_ok.mp hs
    cases hs
    exact h
  | answer given =>
    cases hs
    exact h
  | draw number index =>
    cases hs
    exact h.with_challenge _
  | setChallenge c =>
    cases hs
    exact h.with_challenge _

theorem perform_generate (places : Int) (s : Session) (count : Value) :
    perform places s (.generate count) = generate s count := rfl

theorem perform_next (places : Int) (s : Session) : perform places s .next = next s := rfl

theorem act_of_perform {a : Action} (h : perform places s a = .ok (o, s')) :
    act places s a = (.ok o, s') := by
  unfold act
  rw [h]

theorem act_of_failure {a : Action} {f : Failure} (h : perform places s a = .error f) :
    act places s a = (.error f, s) := by
  unfold act
  rw [h]

/-- A count in range starts a playback. -/
theorem act_generate {v : Value} {n : Nat} (h : count? v = some n) (places : Int) (s : Session) :
    ∃ text, act places s (.generate v)
      = (.ok (.said text), { s with playback? := some (.start (fibValues n)) }) := by
  obtain ⟨text, hgenerate⟩ := generate_accepted s h
  exact ⟨text, act_of_perform ((perform_generate places s v).trans hgenerate)⟩

theorem act_generate_refused {v : Value} (h : count? v = none) (places : Int) (s : Session) :
    act places s (.generate v) = (.error (.fibonacci .invalidCount), s) :=
  act_of_failure ((perform_generate places s v).trans (generate_refused s h))

/-- **An action keeps a session sound**, whether it succeeds or fails. -/
theorem act_sound (h : s.Sound places) (a : Action) : (act places s a).2.Sound places := by
  cases hs : perform places s a with
  | error e =>
    rw [act_of_failure hs]
    exact h
  | ok r =>
    rw [act_of_perform hs]
    exact perform_sound h hs

theorem run_sound (h : s.Sound places) (actions : List Action) :
    ∀ r ∈ run places s actions, r.2.Sound places := by
  induction actions generalizing s with
  | nil =>
    intro r hr
    cases hr
  | cons a actions ih =>
    intro r hr
    rcases List.mem_cons.mp hr with rfl | hr
    · exact act_sound h a
    · exact ih (act_sound h a) r hr

/-! ## explaining -/

theorem explainPlayback_eq_ok {p : Playback} {n : Nat} (h : p.Plays n) :
    ∃ text?, explainPlayback p = .ok text? := by
  unfold explainPlayback
  by_cases hshown : p.shown < 3
  · exact ⟨none, if_pos hshown⟩
  · -- the last ratio is read, and there is one
    have hne := Playback.ratios_ne_nil (Nat.not_lt.mp hshown)
    rw [if_neg hshown, h.ratios, ok_bind, List.getLast?_eq_some_getLast hne]
    exact ⟨_, rfl⟩

theorem explain_eq_ok (h : s.Sound places) : ∃ text, explain places s = .ok text := by
  unfold explain
  cases hp : s.playback? with
  | none => exact ⟨_, rfl⟩
  | some p =>
    obtain ⟨n, _, _, hplays⟩ := h.playback p hp
    obtain ⟨text?, htext⟩ := explainPlayback_eq_ok hplays
    show ∃ text, (explainPlayback p >>= fun ratio? => _) = Except.ok text
    rw [htext]
    exact ⟨_, rfl⟩

/-- The session at the start and after each action. -/
def reached (places : Int) (actions : List Action) : List Session :=
  {} :: (run places {} actions).map (·.2)

/-- **Every session that is reached is sound and can be explained**: its playback plays the first
terms, its quadratic is solved, and with three terms visible there is a latest ratio. -/
theorem sound_of_reached (places : Int) (actions : List Action) {s : Session}
    (h : s ∈ reached places actions) :
    (∀ p, s.playback? = some p → ∃ n, 2 ≤ n ∧ n ≤ 25 ∧
      p.full = (List.range n).map (fun i => .int (Nat.fib i)) ∧ 2 ≤ p.shown ∧ p.shown ≤ n) ∧
    (∀ q, s.quadratic? = some q →
      (q.a.isFinite = true ∧ q.b.isFinite = true ∧ q.c.isFinite = true) ∧ (q.a == 0) = false ∧
      Quadratic.solve places q.a q.b q.c = .ok q) ∧
    (∃ text, explain places s = .ok text) ∧
    ∀ p, s.playback? = some p → 3 ≤ p.shown → ∃ rs, p.ratios = .ok rs ∧ rs ≠ [] := by
  have hsound : s.Sound places := by
    rcases List.mem_cons.mp h with rfl | h
    · exact sound_empty places
    · obtain ⟨r, hr, rfl⟩ := List.mem_map.mp h
      exact run_sound (sound_empty places) actions r hr
  refine ⟨fun p hp => ?_, fun q hq => ?_, explain_eq_ok hsound, fun p hp hshown => ?_⟩
  · obtain ⟨n, hmin, hmax, hplays⟩ := hsound.playback p hp
    exact ⟨n, hmin, hmax, hplays.full, hplays.two_le, hplays.shown_le⟩
  · have hq := hsound.quadratic q hq
    exact ⟨⟨hq.finite_a, hq.finite_b, hq.finite_c⟩, hq.a_ne_zero, hq.again⟩
  · obtain ⟨n, _, _, hplays⟩ := hsound.playback p hp
    exact ⟨_, hplays.ratios, Playback.ratios_ne_nil hshown⟩

theorem explain_after_third_term :
    ({ playback? := some ⟨fibValues 5, 3⟩ } : Session) ∈ reached 4 [.generate (.int 5), .next] ∧
    (∃ text, explain 4 { playback? := some ⟨fibValues 5, 3⟩ } = .ok text) ∧
    ∃ rs, Playback.ratios ⟨fibValues 5, 3⟩ = .ok rs ∧ rs ≠ [] := by
  obtain ⟨text, hgenerate⟩ := generate_accepted {} (show count? (.int 5) = some 5 by decide)
  obtain ⟨text', hnext⟩ := next_advances (s := { playback? := some (.start (fibValues 5)) })
    rfl (Playback.plays_start (show 2 ≤ 5 by decide))
  have hreached : ({ playback? := some ⟨fibValues 5, 3⟩ } : Session)
      ∈ reached 4 [.generate (.int 5), .next] := by
    have hfirst := act_of_perform ((perform_generate 4 {} (.int 5)).trans hgenerate)
    have hsecond := act_of_perform ((perform_next 4 _).trans hnext)
    unfold reached run run run
    rw [hfirst, hsecond]
    exact List.mem_cons_of_mem _ (List.mem_cons_of_mem _ List.mem_cons_self)
  obtain ⟨_, _, hexplain, hratios⟩ := sound_of_reached 4 _ hreached
  exact ⟨hreached, hexplain, hratios _ rfl (Nat.le_refl 3)⟩

end

end AlgebraDesk.Session

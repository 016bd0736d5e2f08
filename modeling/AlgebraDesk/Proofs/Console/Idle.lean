import AlgebraDesk.Console.Turn
import AlgebraDesk.Proofs.Console.Typing
import AlgebraDesk.Proofs.Session.Parts

/-!
# Commands that leave no trace

Most commands leave the desk as it is: the tools that read a text, `explain` and `answer`, and
`quad` and `fib` when they are answered with a problem.  So the other commands cannot tell whether
such a command was typed: each writes and sends the same without it.

* `IsIdle`         an entry that leaves no trace, at the desk where it is typed;
* `desk_of_isIdle` it leaves the desk as it is;
* `deskAfter`      the desk after some entries;
* `without`        a list without the items at some positions;
* `run_without`    the turns of the other entries;
* `undisturbed_without`   the same for what is typed, line by line.
-/

namespace AlgebraDesk.Console

open Session (Action)

/-- Whether an entry leaves no trace; the last commands only when they are answered with a
problem. -/
def IsIdle (s : Setting) (d : Desk) : Entry → Prop
  | .blank | .help | .system .. => True
  | .command (.evaluate _) | .command (.analyze _) | .command (.classify _) => True
  | .command (.plot _) | .command .explain | .command (.answer _) => True
  | .command (.solve text) => (d.perform s (.solve text)).isGood = false
  | .command (.generate text) => (d.perform s (.generate text)).isGood = false
  | _ => False

section
variable {s : Setting} {d : Desk}

/-! ## the desk stays as it is -/

theorem desk_of_unchanged {a : Action} (h : (d.session.act s.places a).2 = d.session) :
    (Outcome.act s d a).desk = d := by
  show { d with session := (d.session.act s.places a).2 } = d
  rw [h]

theorem desk_explain (s : Setting) (d : Desk) : (Outcome.act s d .explain).desk = d := by
  refine desk_of_unchanged ?_
  rw [← Session.explain_eq_act, Session.explain_apply]

/-- Coefficients that are answered with a problem are not remembered. -/
theorem desk_act_solve {k : Value × Value × Value} {a : Action}
    (ha : Session.perform s.places d.session a = Session.solve s.places d.session k)
    (h : (Outcome.act s d a).isGood = false) : (Outcome.act s d a).desk = d := by
  have hact := (Session.solve_eq_act k d.session ha).symm
  rw [Session.solve_apply] at hact
  cases hsolve : Quadratic.solveValues s.places k.1 k.2.1 k.2.2 with
  | ok q =>
    rw [hsolve] at hact
    unfold Outcome.act at h
    rw [hact] at h
    cases h
  | error e =>
    rw [hsolve] at hact
    refine desk_of_unchanged ?_
    rw [hact]

theorem solve_cases (s : Setting) (d : Desk) (text : String) :
    Desk.solve s d text = .keep d (.ok Desk.coefficientsMissing) ∨
    ∃ a k, Session.perform s.places d.session a = Session.solve s.places d.session k ∧
      Desk.solve s d text = .act s d a := by
  unfold Desk.solve
  simp only
  split
  · exact .inr ⟨.solveExample, _, rfl, rfl⟩
  · split
    · exact .inr ⟨.solveReset, _, rfl, rfl⟩
    · split
      · exact .inr ⟨.solve _ _ _, _, rfl, rfl⟩
      · exact .inl rfl

theorem desk_solve {text : String} (h : (Desk.solve s d text).isGood = false) :
    (Desk.solve s d text).desk = d := by
  obtain hsolve | ⟨a, k, ha, hsolve⟩ := solve_cases s d text
  · rw [hsolve]
    rfl
  · rw [hsolve] at h ⊢
    exact desk_act_solve ha h

/-- A count is refused, or there is a playback to tell about. -/
theorem generate_cases (s : Setting) (d : Desk) (text : String) :
    Desk.generate s d text = .keep d (.ok Desk.countRefused) ∨
    (Desk.generate s d text).isGood = true := by
  unfold Desk.generate
  cases Desk.termCount? text with
  | none => exact .inl rfl
  | some n =>
    cases hcount : Fibonacci.count? (.int n) with
    | none =>
      simp only [Session.act_generate_refused hcount]
      exact .inl trivial
    | some m =>
      obtain ⟨said, hact⟩ := Session.act_generate hcount s.places d.session
      simp only [hact]
      exact .inr rfl

theorem desk_generate {text : String} (h : (Desk.generate s d text).isGood = false) :
    (Desk.generate s d text).desk = d := by
  rcases generate_cases s d text with hgenerate | hgood
  · rw [hgenerate]
    rfl
  · rw [hgood] at h
    cases h

/-- **An idle entry leaves the desk as it is.** -/
theorem desk_of_isIdle {e : Entry} (h : IsIdle s d e) : (reply s d e).desk = d := by
  cases e with
  | blank | help => rfl
  | system first second => rfl
  | unfinished asked => exact h.elim
  | command c =>
    cases c with
    | evaluate text | analyze text | classify text | plot text | answer text => rfl
    | explain => exact desk_explain s d
    | solve text => exact desk_solve h
    | generate text => exact desk_generate h
    | next | play | challenge | models => exact h.elim
    | predict text => exact h.elim

/-! ## leaving entries out -/

/-- The desk after some entries. -/
def deskAfter (s : Setting) (d : Desk) (es : List Entry) : Desk :=
  es.foldl (fun d e => (reply s d e).desk) d

end

/-- A list without the items at the positions that are `left` out. -/
def without {α : Type} (left : Nat → Bool) : List α → List α
  | [] => []
  | a :: as =>
    if left 0 then without (fun i => left (i + 1)) as
    else a :: without (fun i => left (i + 1)) as

section
variable {α β : Type} {left : Nat → Bool}

theorem without_cons_of_left (h : left 0 = true) (a : α) (as : List α) :
    without left (a :: as) = without (fun i => left (i + 1)) as := if_pos h

theorem without_cons_of_kept (h : left 0 = false) (a : α) (as : List α) :
    without left (a :: as) = a :: without (fun i => left (i + 1)) as :=
  if_neg (by simp [h])

theorem without_of_kept (h : ∀ i, left i = false) (as : List α) : without left as = as := by
  induction as generalizing left with
  | nil => rfl
  | cons a as ih => rw [without_cons_of_kept (h 0), ih fun i => h (i + 1)]

theorem without_map (f : α → β) (as : List α) :
    without left (as.map f) = (without left as).map f := by
  induction as generalizing left with
  | nil => rfl
  | cons a as ih =>
    cases h : left 0 with
    | true => rw [List.map_cons, without_cons_of_left h, without_cons_of_left h, ih]
    | false => rw [List.map_cons, without_cons_of_kept h, without_cons_of_kept h, List.map_cons, ih]

end

/-! ## the other entries -/

section
variable {s : Setting} {d : Desk} {left : Nat → Bool}

theorem run_cons {e : Entry} (h : (turn s d e).printed.fault? = none) (es : List Entry) :
    run s d (e :: es) = turn s d e :: run s (reply s d e).desk es := by
  have hfault : ¬ (turn s d e).printed.fault?.isSome := by simp [h]
  exact if_neg hfault

theorem turn_mem_run (e : Entry) (es : List Entry) : turn s d e ∈ run s d (e :: es) := by
  unfold run
  simp only
  split
  · exact List.mem_singleton_self _
  · exact List.mem_cons_self

/-- **The turns of the other entries are the same** when idle entries are left out: what is written,
what is sent and noted, and the desk that each leaves. -/
theorem run_without {es tail : List Entry}
    (hfault : ∀ t ∈ run s d (es ++ tail), t.printed.fault? = none)
    (hidle : ∀ i, left i = true → ∃ e, es[i]? = some e ∧ IsIdle s (deskAfter s d (es.take i)) e) :
    run s d (without left es ++ tail) = without left (run s d (es ++ tail)) := by
  induction es generalizing d left with
  | nil =>
    have hkept : ∀ i, left i = false := by
      intro i
      cases h : left i with
      | false => rfl
      | true =>
        obtain ⟨e, he, _⟩ := hidle i h
        cases he
    rw [without_of_kept hkept, without_of_kept hkept]
  | cons e es ih =>
    have hfirst := hfault _ (turn_mem_run e (es ++ tail))
    have hrun := run_cons hfirst (es ++ tail)
    have hrest : run s (reply s d e).desk (without (fun i => left (i + 1)) es ++ tail)
        = without (fun i => left (i + 1)) (run s (reply s d e).desk (es ++ tail)) := by
      refine ih (fun t ht => hfault t ?_) fun i hi => ?_
      · rw [List.cons_append, hrun]
        exact List.mem_cons_of_mem _ ht
      · exact hidle (i + 1) hi
    rw [List.cons_append, hrun]
    cases h : left 0 with
    | true =>
      -- the desk is the one before, so that nobody notices
      obtain ⟨e', he', hidleE⟩ := hidle 0 h
      cases he'
      have hdesk : (reply s d e).desk = d := desk_of_isIdle hidleE
      rw [without_cons_of_left h, without_cons_of_left h, ← hrest, hdesk]
    | false =>
      rw [without_cons_of_kept h, without_cons_of_kept h, List.cons_append, run_cons hfirst, hrest]

end

end AlgebraDesk.Console

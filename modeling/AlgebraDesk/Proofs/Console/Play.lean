import AlgebraDesk.Program
import AlgebraDesk.Proofs.Fibonacci.Reveal
import AlgebraDesk.Proofs.Session

/-!
# Playing to the end

The console and the program play a sequence in the same way: a line for what is visible, and one
more for each item that is hidden.  The last line is the one about the whole sequence, and the
playback that is left has nothing hidden.

* `PlaysOut`     an outcome that plays a playback to its end;
* `playsOut_play`, `playsOut_fresh`, `playsOut_reveal`   at the console, with a playback and without
  one, and for an option;
* `played_out`   the steps of a playback, and both ways to play it.
-/

namespace AlgebraDesk.Console

open Fibonacci (HasRatios Playback count? fibValues)

/-- The lines are those of the playback up to its end, and the end is where it is left. -/
def PlaysOut (s : Setting) (p : Playback) (o : Outcome) : Prop :=
  ∃ first texts whole, p.Showing first texts whole ∧
    o.response = .ok (.lines (first :: texts)) ∧ o.print s = .lines (first :: texts) ∧
    o.desk.session.playback? = some (.complete p.full)

section
variable {s : Setting} {d : Desk} {p : Playback} {n : Nat}

theorem playLines_showing {first whole : String} {texts : List String}
    (h : p.Showing first texts whole) : Desk.playLines p = .ok (first :: texts) := by
  unfold Desk.playLines
  rw [h.first_text, ok_bind, h.remaining]
  rfl

theorem toEnd_eq_complete (h : p.shown ≤ p.full.length) : p.toEnd = .complete p.full := by
  unfold Playback.toEnd
  rw [Nat.max_eq_right h]
  rfl

/-- The session from which the console plays has a playback. -/
theorem playsOut_of_playback (hp : (Desk.playback s d).playback? = some p) (h : HasRatios p.full)
    (hs : p.shown ≤ p.full.length) : PlaysOut s p (Desk.play s d) := by
  obtain ⟨first, texts, whole, hshowing⟩ := Playback.exists_showing h hs
  have hlines := playLines_showing hshowing
  have hplay : Desk.play s d = {
      response := .ok (.lines (first :: texts))
      desk := { d with session := { Desk.playback s d with playback? := some p.toEnd } } } := by
    unfold Desk.play
    simp only [hp, hlines]
    rfl
  rw [hplay, toEnd_eq_complete hs]
  exact ⟨first, texts, whole, hshowing, rfl, rfl, rfl⟩

theorem playsOut_play (hp : d.session.playback? = some p) (h : HasRatios p.full)
    (hs : p.shown ≤ p.full.length) : PlaysOut s p (Desk.play s d) := by
  refine playsOut_of_playback ?_ h hs
  unfold Desk.playback
  rw [hp]
  exact hp

theorem shown_start (full : List Value) : (Playback.start full).shown ≤ full.length :=
  Nat.min_le_right 2 _

/-- Without a playback, the usual number of terms is played. -/
theorem playsOut_fresh (h : d.session.playback? = none) :
    PlaysOut s (.start (fibValues 12)) (Desk.play s d) := by
  refine playsOut_of_playback ?_ (Fibonacci.hasRatios_fibValues 12) (shown_start _)
  have hcount : count? (.int Fibonacci.defaultTerms) = some 12 := by decide
  obtain ⟨text, hact⟩ := Session.act_generate hcount s.places d.session
  unfold Desk.playback
  rw [h, hact]

theorem playsOut_reveal {count : Value} (h : count? count = some n) :
    PlaysOut s (.start (fibValues n)) (Program.reveal s d count) := by
  obtain ⟨text, hact⟩ := Session.act_generate h s.places d.session
  unfold Program.reveal
  rw [hact]
  exact playsOut_play rfl (Fibonacci.hasRatios_fibValues n) (shown_start _)

end

end AlgebraDesk.Console

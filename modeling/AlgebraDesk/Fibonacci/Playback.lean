import AlgebraDesk.Decimal.Fixed
import AlgebraDesk.Fibonacci.Sequence
import AlgebraDesk.Value.Notation

/-!
# Playing back a sequence

A playback shows the first two terms of a sequence and reveals one more at each step, until all of
them are visible.

* `Playback`  the terms, and how many of them are visible;
* `start`, `next`, `finished`  the steps;
* `render`    the sentence that shows the visible terms and the latest ratio.
-/

namespace AlgebraDesk.Fibonacci

structure Playback where
  full : List Value
  shown : Nat

namespace Playback

def start (full : List Value) : Playback := ⟨full, min 2 full.length⟩

/-- All terms at once. -/
def complete (full : List Value) : Playback := ⟨full, full.length⟩

def finished (p : Playback) : Bool := p.full.length ≤ p.shown

def next (p : Playback) : Playback := { p with shown := min p.full.length (p.shown + 1) }

def visible (p : Playback) : List Value := p.full.take p.shown

def ratios (p : Playback) : Except Fault (List Float) := Fibonacci.ratios p.visible

/-- A ratio with six places. -/
def ratioText (x : Float) : String := Decimal.fixed 6 x

def latestText (rs : List Float) : String := (rs.getLast?.map ratioText).getD "n/a"

def render (p : Playback) : Except Fault String := do
  let rs ← p.ratios
  .ok ("Sequence (" ++ toString p.visible.length ++ " terms): "
    ++ ", ".intercalate (p.visible.map Value.shown)
    ++ ". Latest ratio Fn/Fn-1: " ++ latestText rs)

/-- The next step and what it shows. -/
def advance (p : Playback) : Except Fault (String × Playback) := do
  .ok (← p.next.render, p.next)

/-- How many terms are still hidden. -/
def hidden (p : Playback) : Nat := p.full.length - p.shown

theorem hidden_next_lt {p : Playback} (h : p.finished = false) : p.next.hidden < p.hidden := by
  simp only [finished, decide_eq_false_iff_not, Nat.not_le] at h
  simp only [hidden, next]
  omega

/-- The sentences of the steps up to the last term. -/
def remaining (p : Playback) : Except Fault (List String) :=
  if h : p.finished = false then
    have : p.next.hidden < p.hidden := hidden_next_lt h
    do
      let s ← p.next.render
      return s :: (← remaining p.next)
  else .ok []
termination_by p.hidden

/-- The playback with all its terms visible. -/
def toEnd (p : Playback) : Playback := { p with shown := max p.shown p.full.length }

end Playback

end AlgebraDesk.Fibonacci

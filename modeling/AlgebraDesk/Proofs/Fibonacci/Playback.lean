import AlgebraDesk.Fibonacci.Playback
import AlgebraDesk.Proofs.Fibonacci.Sequence
import AlgebraDesk.Proofs.Result

/-!
# Playbacks of the sequence

A playback of the first terms stays one at every step.  Its visible terms are first terms too, so
that its ratios never fail and there is a latest one as soon as three terms are visible.

* `Playback.Plays`   a playback of the first terms with two or more of them visible;
* `plays_start`, `Plays.next`   the start of a playback and its steps;
* `Plays.ratios`, `ratios_ne_nil`   the ratios of the visible terms;
* `Plays.render`   what is shown never fails.
-/

namespace AlgebraDesk.Fibonacci.Playback

/-- The first `n` terms are played, and two or more of them are visible. -/
structure Plays (n : Nat) (p : Playback) : Prop where
  full : p.full = fibValues n
  two_le : 2 ≤ p.shown
  shown_le : p.shown ≤ n

section
variable {n : Nat} {p : Playback}

/-! ## steps -/

theorem plays_start (h : 2 ≤ n) : Plays n (start (fibValues n)) where
  full := rfl
  two_le := Nat.le_min.mpr ⟨Nat.le_refl 2, by rwa [length_fibValues]⟩
  shown_le := (Nat.min_le_left 2 _).trans h

theorem Plays.length_full (h : p.Plays n) : p.full.length = n := by
  rw [h.full, length_fibValues]

theorem Plays.next (h : p.Plays n) : p.next.Plays n where
  full := h.full
  two_le := by
    have hle := h.shown_le
    have htwo := h.two_le
    show 2 ≤ min p.full.length (p.shown + 1)
    rw [h.length_full]
    omega
  shown_le := by
    show min p.full.length (p.shown + 1) ≤ n
    rw [h.length_full]
    exact Nat.min_le_left _ _

/-! ## what is visible -/

theorem Plays.visible (h : p.Plays n) : p.visible = fibValues p.shown := by
  unfold Playback.visible
  rw [h.full, take_fibValues h.shown_le]

theorem Plays.ratios (h : p.Plays n) :
    p.ratios = .ok ((List.range' 1 (p.shown - 2)).map ratio) := by
  unfold Playback.ratios
  rw [h.visible, ratios_eq]

/-- With three terms visible there is a latest ratio. -/
theorem ratios_ne_nil (h : 3 ≤ p.shown) : (List.range' 1 (p.shown - 2)).map ratio ≠ [] := by
  rw [ne_eq, List.map_eq_nil_iff, List.range'_eq_nil_iff]
  omega

theorem Plays.render (h : p.Plays n) : ∃ text, p.render = .ok text := by
  unfold Playback.render
  rw [h.ratios]
  exact ⟨_, rfl⟩

end

end AlgebraDesk.Fibonacci.Playback

import AlgebraDesk.Proofs.Result
import AlgebraDesk.Quadratic

/-!
# Solutions

A solution holds the coefficients it was computed from: they are finite, the first one is not zero,
and solving them again gives the same solution.

* `Solution.IsSolved`   solutions that come from solving;
* `isSolved_of_solve`, `isSolved_of_solveValues`   every answer is one.
-/

namespace AlgebraDesk.Quadratic

/-- The answer for its own coefficients. -/
structure Solution.IsSolved (places : Int) (q : Solution) : Prop where
  finite_a : q.a.isFinite = true
  finite_b : q.b.isFinite = true
  finite_c : q.c.isFinite = true
  a_ne_zero : (q.a == 0) = false
  again : solve places q.a q.b q.c = .ok q

section
variable {places : Int} {q : Solution}

/-- What is solved, and which coefficients the solution holds. -/
theorem of_solve {a b c : Float} (h : solve places a b c = .ok q) :
    ((a.isFinite = true ∧ b.isFinite = true ∧ c.isFinite = true) ∧ (a == 0) = false) ∧
      q.a = a ∧ q.b = b ∧ q.c = c := by
  unfold solve at h
  split at h
  · cases h
  · rename_i hfinite
    split at h
    · cases h
    · rename_i hzero
      rw [Bool.not_eq_true', Bool.not_eq_false, Bool.and_eq_true, Bool.and_eq_true] at hfinite
      obtain ⟨⟨ha, hb⟩, hc⟩ := hfinite
      cases h
      exact ⟨⟨⟨ha, hb, hc⟩, Bool.eq_false_iff.mpr hzero⟩, rfl, rfl, rfl⟩

theorem isSolved_of_solve {a b c : Float} (h : solve places a b c = .ok q) :
    q.IsSolved places := by
  obtain ⟨⟨⟨ha, hb, hc⟩, hzero⟩, rfl, rfl, rfl⟩ := of_solve h
  exact ⟨ha, hb, hc, hzero, h⟩

theorem isSolved_of_solveValues {a b c : Value} (h : solveValues places a b c = .ok q) :
    q.IsSolved places := by
  obtain ⟨x, _, h⟩ := bind_eq_ok.mp h
  obtain ⟨y, _, h⟩ := bind_eq_ok.mp h
  obtain ⟨z, _, h⟩ := bind_eq_ok.mp h
  cases hsolve : solve places x y z with
  | error e =>
    rw [hsolve] at h
    cases h
  | ok s =>
    rw [hsolve] at h
    cases h
    exact isSolved_of_solve hsolve

end

end AlgebraDesk.Quadratic

import AlgebraDesk.Proofs.Analysis.Safety
import AlgebraDesk.Proofs.Quadratic
import AlgebraDesk.Proofs.Value.Number

/-!
# Coefficients of any kind

Three values are coefficients when each gives a finite double and the first is not zero.  Anything
else is refused, except an integer that is too large for a double: it is a fault, unless a value
before it has been refused.  Once the coefficients are there nothing can fault any more: the
equation is solved here a second time, out of operations that are not defined everywhere, with the
same result.

* `readCoefficient_eq_ok`, `readCoefficient_fault_iff`   how one value is read;
* `Checked.solve`        the second solution, and `Checked.solve_eq` that it is the first;
* `solveValues_ok_iff`, `solveValues_fault_iff`   which values are solved, and which are a fault.
-/

namespace AlgebraDesk.Quadratic

open Analysis.Checked (display item pointText)

/-! ## one value -/

section
variable {v : Value} {x : Float}

theorem readCoefficient_eq_ok : readCoefficient v = .ok x ↔ v.Gives x := by
  rw [← Value.readReal_eq_ok]
  unfold readCoefficient
  cases v.readReal with
  | ok y =>
    constructor
    · intro h
      cases h
      rfl
    · intro h
      cases h
      rfl
  | error f =>
    refine iff_of_false (fun h => ?_) fun h => nomatch h
    cases f <;> cases h

theorem readCoefficient_fault_iff (v : Value) :
    (∃ f, readCoefficient v = .error (.fault f)) ↔ v.IsTooLarge := by
  constructor
  · rintro ⟨f, h⟩
    unfold readCoefficient at h
    cases hread : v.readReal with
    | ok x =>
      rw [hread] at h
      cases h
    | error g =>
      rw [hread] at h
      rcases Value.readReal_error hread with ⟨_, hlarge⟩ | rfl | rfl
      · exact hlarge
      · cases h
      · cases h
  · intro hlarge
    unfold readCoefficient
    rw [Value.readReal_of_isTooLarge hlarge]
    exact ⟨_, rfl⟩

end

/-! ## solving with faults -/

namespace Checked

def describeRoots (places : Int) (rs : List Float) : Except Fault String :=
  if rs.length == 2 then do
    return "Two real roots: x1=" ++ (← display places (← item rs 0)) ++ ", x2="
      ++ (← display places (← item rs 1)) ++ "."
  else if !rs.isEmpty then do
    return "One repeated root: x=" ++ (← display places (← item rs 0)) ++ "."
  else return "No real roots (complex roots)."

def answer (places : Int) (a b c : Float) : Except Fault Solution := do
  let d := discriminant a b c
  let roots ← Analysis.Checked.roots a b d
  let vertex ← Analysis.Checked.vertex a b c
  let summary := "Discriminant: " ++ (← display places d) ++ ". "
    ++ (← describeRoots places roots) ++ " Vertex: " ++ (← pointText places vertex) ++ "."
  return { a, b, c, discriminant := d, roots, vertex, summary }

def solve (places : Int) (a b c : Float) : Except Failure Solution :=
  if !(a.isFinite && b.isFinite && c.isFinite) then .error (.refused .invalidCoefficients)
  else if a == 0 then .error (.refused .notQuadratic)
  else (answer places a b c).mapError .fault

def solveValues (places : Int) (a b c : Value) : Except Failure Solution := do
  let a ← readCoefficient a
  let b ← readCoefficient b
  let c ← readCoefficient c
  solve places a b c

section
variable {places : Int}

theorem describeRoots_eq (hplaces : places ≤ Value.placesLimit) (rs : List Float) :
    describeRoots places rs = .ok (Quadratic.describeRoots places rs) :=
  Analysis.Checked.tellRoots_eq hplaces
    (fun x y => "Two real roots: x1=" ++ x ++ ", x2=" ++ y ++ ".")
    (fun x => "One repeated root: x=" ++ x ++ ".") "No real roots (complex roots)." rs

/-- **Coefficients are solved without a fault.** -/
theorem solve_eq (hplaces : places ≤ Value.placesLimit) (a b c : Float) :
    solve places a b c = (Quadratic.solve places a b c).mapError .refused := by
  unfold solve Quadratic.solve answer
  split
  · rfl
  · split
    · rfl
    · rename_i ha
      have hzero : (a == 0) = false := Bool.eq_false_iff.mpr ha
      simp only [Analysis.Checked.roots_eq hzero, Analysis.Checked.vertex_eq hzero,
        Analysis.Checked.display_eq hplaces, Analysis.Checked.pointText_eq hplaces,
        describeRoots_eq hplaces, ok_bind]
      rfl

theorem solveValues_eq (hplaces : places ≤ Value.placesLimit) (a b c : Value) :
    solveValues places a b c = Quadratic.solveValues places a b c := by
  unfold solveValues Quadratic.solveValues
  refine bind_congr fun x => bind_congr fun y => bind_congr fun z => ?_
  rw [solve_eq hplaces]
  cases Quadratic.solve places x y z <;> rfl

end

end Checked

/-! ## three values -/

section
variable {places : Int} {a b c : Value}

/-- Three values that are the coefficients of a quadratic. -/
def AreCoefficients (a b c : Value) : Prop :=
  ∃ x y z, (a.Gives x ∧ b.Gives y ∧ c.Gives z) ∧
    (x.isFinite = true ∧ y.isFinite = true ∧ z.isFinite = true) ∧ (x == 0) = false

theorem solve_ok_iff {x y z : Float} : (∃ q, solve places x y z = .ok q)
    ↔ (x.isFinite = true ∧ y.isFinite = true ∧ z.isFinite = true) ∧ (x == 0) = false := by
  constructor
  · rintro ⟨q, h⟩
    exact (of_solve h).1
  · rintro ⟨⟨hx, hy, hz⟩, hzero⟩
    unfold solve
    rw [hx, hy, hz, if_neg (by decide), if_neg (by rw [hzero]; decide)]
    exact ⟨_, rfl⟩

/-- **Which values are solved.** -/
theorem solveValues_ok_iff :
    (∃ q, solveValues places a b c = .ok q) ↔ AreCoefficients a b c := by
  unfold solveValues AreCoefficients
  simp only [Value.read_three_eq_ok, readCoefficient_eq_ok]
  constructor
  · rintro ⟨q, x, y, z, hx, hy, hz, h⟩
    cases hsolve : solve places x y z with
    | error e =>
      rw [hsolve] at h
      cases h
    | ok s => exact ⟨x, y, z, ⟨hx, hy, hz⟩, solve_ok_iff.mp ⟨s, hsolve⟩⟩
  · rintro ⟨x, y, z, ⟨hx, hy, hz⟩, hsolvable⟩
    obtain ⟨q, hq⟩ := solve_ok_iff.mpr hsolvable
    refine ⟨q, x, y, z, hx, hy, hz, ?_⟩
    rw [hq]

/-- **Which values are a fault.** -/
theorem solveValues_fault_iff : (∃ f, solveValues places a b c = .error (.fault f))
    ↔ Value.OverflowsIn (fun v => ∃ x, v.Gives x) a b c := by
  refine Value.read_three_fault_iff (fun v => ?_) readCoefficient_fault_iff fun x y z f => ?_
  · exact exists_congr fun x => readCoefficient_eq_ok
  · cases solve places x y z with
    | ok s => exact fun h => nomatch h
    | error e => exact fun h => nomatch h

end

end AlgebraDesk.Quadratic

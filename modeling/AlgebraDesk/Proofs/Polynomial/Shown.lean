import AlgebraDesk.Proofs.Decimal.Canonical
import AlgebraDesk.Proofs.Double.Order
import AlgebraDesk.Proofs.Polynomial.Coefficient

/-!
# Which polynomials have a text

A polynomial of finite doubles is printed when the text of none of its coefficients is refused: at
every precision up to the limit, and beyond it when they are whole.  An integer is printed at every
precision.

* `IsWhole`, `ofIntegers`        polynomials with whole coefficients;
* `coefficient_real`             one coefficient;
* `displayPolynomial_eq_ok_iff`  the polynomials that have a text, and their texts;
* `displayPolynomial_refused`    what is said of the others;
* `displayPolynomial_int`        integers.
-/

namespace AlgebraDesk

namespace Polynomial

open Double (integer IsSmall)

/-- All coefficients are whole. -/
def IsWhole (p : Polynomial) : Prop := ∀ x ∈ [p.a, p.b, p.c], Double.isWhole x = true

theorem isFinite_iff {p : Polynomial} : p.isFinite = true ↔
    p.a.isFinite = true ∧ p.b.isFinite = true ∧ p.c.isFinite = true := by
  unfold isFinite
  rw [Bool.and_eq_true, Bool.and_eq_true, and_assoc]

/-- The polynomial with these coefficients. -/
def ofIntegers (l m n : Int) : Polynomial := ⟨integer l, integer m, integer n⟩

theorem isFinite_ofIntegers {l m n : Int} (hl : IsSmall l) (hm : IsSmall m) (hn : IsSmall n) :
    (ofIntegers l m n).isFinite = true :=
  isFinite_iff.mpr ⟨Double.isFinite_integer hl, Double.isFinite_integer hm,
    Double.isFinite_integer hn⟩

end Polynomial

namespace Value

open Double (isWhole IsSmall)
open AlgebraDesk.Polynomial (ofIntegers)

variable {places : Int}

section
variable {x : Float}

theorem not_refused (h : places ≤ placesLimit ∨ isWhole x = true) :
    ¬ (placesLimit < places ∧ isWhole x = false) := by
  rintro ⟨hlimit, hfrac⟩
  rcases h with h | h
  · omega
  · exact Bool.noConfusion (h.symm.trans hfrac)

theorem displayAt_null (hx : x.isFinite = true) (h : places ≤ placesLimit ∨ isWhole x = true) :
    displayAt places .null (.real x) = .ok (Decimal.display places x) := by
  rw [displayAt_real hx (.inr ⟨rfl, rfl⟩), if_neg (not_refused h)]

theorem coefficient_real (hx : x.isFinite = true) : (Value.real x).coefficient places
      = if placesLimit < places ∧ isWhole x = false then .error .badValue
        else .ok (.ofReal places x) := by
  show (displayAt places .null (.real x.abs)).map (fun _ => Coefficient.ofReal places x) = _
  rw [displayAt_real (Double.isFinite_abs hx) (.inr ⟨rfl, rfl⟩), Double.isWhole_abs hx]
  split <;> rfl

end

section
variable {p : Polynomial} {text : String}

theorem displayPolynomial_real (hp : p.isFinite = true)
    (hplaces : places ≤ placesLimit ∨ p.IsWhole) :
    displayPolynomial places (.real p.a) (.real p.b) (.real p.c) = .ok (p.display places) := by
  have hok : ∀ x ∈ [p.a, p.b, p.c], x.isFinite = true →
      (Value.real x).coefficient places = .ok (.ofReal places x) := by
    intro x hx hfinite
    rw [coefficient_real hfinite, if_neg (not_refused (hplaces.imp_right fun h => h x hx))]
  rw [List.forall_mem_cons, List.forall_mem_cons, List.forall_mem_singleton] at hok
  obtain ⟨ha, hb, hc⟩ := Polynomial.isFinite_iff.mp hp
  unfold displayPolynomial
  rw [hok.1 ha, hok.2.1 hb, hok.2.2 hc]
  rfl

/-- Beyond the limit it is enough that one coefficient is not whole. -/
theorem displayPolynomial_refused (hp : p.isFinite = true) (hlimit : placesLimit < places)
    (hwhole : ¬ p.IsWhole) :
    displayPolynomial places (.real p.a) (.real p.b) (.real p.c) = .error .badValue := by
  have hcoefficient : ∀ x : Float, x.isFinite = true → (Value.real x).coefficient places
      = if isWhole x = false then .error .badValue else .ok (.ofReal places x) := by
    intro x hx
    rw [coefficient_real hx]
    simp only [hlimit, true_and]
  obtain ⟨ha, hb, hc⟩ := Polynomial.isFinite_iff.mp hp
  unfold displayPolynomial
  rw [hcoefficient _ ha, hcoefficient _ hb, hcoefficient _ hc]
  -- the first coefficient that is not whole decides
  cases hwa : isWhole p.a with
  | false => rfl
  | true =>
    cases hwb : isWhole p.b with
    | false => rfl
    | true =>
      cases hwc : isWhole p.c with
      | false => rfl
      | true =>
        refine absurd ?_ hwhole
        unfold Polynomial.IsWhole
        rw [List.forall_mem_cons, List.forall_mem_cons, List.forall_mem_singleton]
        exact ⟨hwa, hwb, hwc⟩

/-- **The polynomials that have a text at a precision**, and their texts. -/
theorem displayPolynomial_eq_ok_iff (hp : p.isFinite = true) :
    displayPolynomial places (.real p.a) (.real p.b) (.real p.c) = .ok text
      ↔ (places ≤ placesLimit ∨ p.IsWhole) ∧ text = p.display places := by
  by_cases hplaces : places ≤ placesLimit ∨ p.IsWhole
  · rw [displayPolynomial_real hp hplaces, Except.ok.injEq, eq_comm]
    exact (and_iff_right hplaces).symm
  · obtain ⟨hlimit, hwhole⟩ := not_or.mp hplaces
    rw [displayPolynomial_refused hp (Int.not_le.mp hlimit) hwhole]
    exact iff_of_false nofun fun h => hplaces h.1

end

/-- Small integers have the text of their doubles. -/
theorem displayPolynomial_int (places : Int) {l m n : Int} (hl : IsSmall l) (hm : IsSmall m)
    (hn : IsSmall n) : displayPolynomial places (.int l) (.int m) (.int n)
      = .ok ((ofIntegers l m n).display places) := by
  show Except.ok (String.ofList (Polynomial.displayTerms (.ofNumber places (.int l))
    (.ofNumber places (.int m)) (.ofNumber places (.int n)))) = _
  rw [Coefficient.ofNumber_int places hl, Coefficient.ofNumber_int places hm,
    Coefficient.ofNumber_int places hn]
  rfl

end Value

end AlgebraDesk

import AlgebraDesk.Proofs.Double.Integer
import AlgebraDesk.Proofs.Result
import AlgebraDesk.Value.Number

/-!
# Values that are read as doubles

A value gives a double when it is a number, a truth value, or a text that spells a number.  Of all
other values only the integers without a double overflow; the rest is simply no number.

* `Gives`, `IsTooLarge`   the double of a value, and the integers that have none;
* `readReal_eq_ok`, `readReal_error`   how a value is read;
* `OverflowsIn`, `read_three_eq_ok`, `read_three_fault_iff`   three values that are read one after
  the other.
-/

namespace AlgebraDesk.Value

/-- The double that a value gives; for an integer it is the nearest one. -/
inductive Gives : Value → Float → Prop
  | bool (b : Bool) : Gives (.bool b) (if b then 1 else 0)
  | int {n : Int} (h : n.natAbs < Double.tooLargeFrom) : Gives (.int n) (Double.integer n)
  | real (x : Float) : Gives (.real x) x
  | text {s : String} {x : Float} (h : Decimal.real? s.toList = some x) : Gives (.text s) x

/-- The integers that are too large for a double. -/
inductive IsTooLarge : Value → Prop
  | int {n : Int} (h : Double.tooLargeFrom ≤ n.natAbs) : IsTooLarge (.int n)

section
variable {v : Value} {x : Float}

/-! ## one value -/

theorem ofInt?_of_lt {n : Int} (h : n.natAbs < Double.tooLargeFrom) :
    Double.ofInt? n = some (Double.integer n) := by
  have hsome : Double.ofInt? n ≠ none := fun hnone =>
    Nat.not_lt.mpr ((Double.ofInt?_eq_none_iff n).mp hnone) h
  unfold Double.ofInt? at hsome ⊢
  dsimp only at hsome ⊢
  split
  · rfl
  · rename_i hfinite
    exact absurd (if_neg hfinite) hsome

theorem readReal_int (n : Int) :
    readReal (.int n) = (Double.ofInt? n).elim (.error .tooLarge) .ok := by
  show ((.ok (.int n) : Except Fault Number) >>= Number.toReal) = _
  rw [ok_bind, Number.toReal]

theorem readReal_bool (b : Bool) :
    readReal (.bool b) = (Double.ofInt? (if b then 1 else 0)).elim (.error .tooLarge) .ok := by
  show ((.ok (.int (if b then 1 else 0)) : Except Fault Number) >>= Number.toReal) = _
  rw [ok_bind, Number.toReal]

theorem readReal_text (s : String) :
    readReal (.text s) = match Decimal.real? s.toList with
      | some x => .ok x
      | none => .error .badValue := rfl

theorem ofInt?_bool (b : Bool) :
    Double.ofInt? (if b then 1 else 0) = some (if b then 1 else 0) := by
  have hone : Double.integer 1 = 1 := by decide +kernel
  cases b with
  | false =>
    rw [if_neg Bool.false_ne_true, if_neg Bool.false_ne_true, Double.ofInt?_eq (by decide),
      Double.integer_zero]
  | true => rw [if_pos rfl, if_pos rfl, Double.ofInt?_eq (by decide), hone]

theorem readReal_of_gives (h : v.Gives x) : v.readReal = .ok x := by
  cases h with
  | bool b =>
    rw [readReal_bool, ofInt?_bool]
    rfl
  | int h =>
    rw [readReal_int, ofInt?_of_lt h]
    rfl
  | real x => rfl
  | text h => rw [readReal_text, h]

theorem readReal_of_isTooLarge (h : v.IsTooLarge) : v.readReal = .error .tooLarge := by
  obtain ⟨h⟩ := h
  rw [readReal_int, (Double.ofInt?_eq_none_iff _).mpr h]
  rfl

/-- What is neither is no number. -/
theorem readReal_of_neither (hgives : ∀ x, ¬ v.Gives x) (hlarge : ¬ v.IsTooLarge) :
    v.readReal = .error .badValue ∨ v.readReal = .error .wrongKind := by
  cases v with
  | null | list _ | object _ => exact .inr rfl
  | bool b => exact absurd (.bool b) (hgives _)
  | int n => exact absurd (.int (Nat.not_le.mp fun h => hlarge (.int h))) (hgives _)
  | real x => exact absurd (.real x) (hgives _)
  | text s =>
    cases hs : Decimal.real? s.toList with
    | none =>
      rw [readReal_text, hs]
      exact .inl rfl
    | some x => exact absurd (.text hs) (hgives x)

theorem readReal_eq_ok : v.readReal = .ok x ↔ v.Gives x := by
  refine ⟨fun h => ?_, readReal_of_gives⟩
  by_contra hno
  have hgives : ∀ y, ¬ v.Gives y := by
    intro y hy
    rw [readReal_of_gives hy] at h
    cases h
    exact hno hy
  have hlarge : ¬ v.IsTooLarge := by
    intro hlarge
    rw [readReal_of_isTooLarge hlarge] at h
    cases h
  rcases readReal_of_neither hgives hlarge with hread | hread
  · rw [hread] at h
    cases h
  · rw [hread] at h
    cases h

/-- Only one fault is not about what is no number. -/
theorem readReal_error {f : Fault} (h : v.readReal = .error f) :
    (f = .tooLarge ∧ v.IsTooLarge) ∨ f = .badValue ∨ f = .wrongKind := by
  have hgives : ∀ y, ¬ v.Gives y := by
    intro y hy
    rw [readReal_of_gives hy] at h
    cases h
  by_cases hlarge : v.IsTooLarge
  · rw [readReal_of_isTooLarge hlarge] at h
    cases h
    exact .inl ⟨rfl, hlarge⟩
  · rcases readReal_of_neither hgives hlarge with hread | hread
    · rw [hread] at h
      cases h
      exact .inr (.inl rfl)
    · rw [hread] at h
      cases h
      exact .inr (.inr rfl)

end

/-! ## integers and doubles -/

/-- A double is equal to an integer when it is exactly that. -/
theorem eq_real_int_iff {x : Float} (hx : x.isFinite = true) (n : Int) :
    (Number.real x).eq (.int n) = true ↔ Double.units x = n * Double.unitsPerOne := by
  obtain ⟨negative, code, hcode, rfl⟩ := Double.eq_ofCode_of_isFinite hx
  have hcompare : Number.compareIntReal n (Double.ofCode negative code)
      = some (compare (n * (Double.unitsPerOne : Int))
        (Double.units (Double.ofCode negative code))) := by
    unfold Number.compareIntReal Double.units
    rw [Double.form_ofCode hcode]
    rfl
  unfold Number.eq Number.compare
  dsimp only
  rw [hcompare, Option.map_some, beq_iff_eq, Option.some_inj, eq_comm (a := Double.units _),
    ← Int.compare_eq_eq]
  cases compare (n * (Double.unitsPerOne : Int)) (Double.units (Double.ofCode negative code)) <;>
    decide

/-- A double with an integer part is finite. -/
theorem isFinite_of_truncate? {x : Float} {n : Int} (h : Double.truncate? x = some n) :
    x.isFinite = true := by
  unfold Double.truncate? at h
  split at h
  · rename_i hform
    obtain ⟨code, hcode, rfl, -⟩ := Double.eq_ofCode_of_form hform
    exact Double.isFinite_ofCode hcode
  · cases h

/-! ## three values -/

/-- Of three values that are taken in order, the first that is not accepted is too large. -/
def OverflowsIn (accepted : Value → Prop) (u v w : Value) : Prop :=
  u.IsTooLarge ∨ accepted u ∧ (v.IsTooLarge ∨ accepted v ∧ w.IsTooLarge)

section
variable {ε α β : Type} {read : Value → Except ε α} {accepted : Value → Prop}

/-- How three values are read that are used together. -/
theorem read_three_eq_ok {u v w : Value} {use : α → α → α → Except ε β} {r : β} :
    (read u >>= fun x => read v >>= fun y => read w >>= fun z => use x y z) = .ok r
      ↔ ∃ x y z, read u = .ok x ∧ read v = .ok y ∧ read w = .ok z ∧ use x y z = .ok r := by
  simp only [bind_eq_ok]
  constructor
  · rintro ⟨x, hx, y, hy, z, hz, h⟩
    exact ⟨x, y, z, hx, hy, hz, h⟩
  · rintro ⟨x, y, z, hx, hy, hz, h⟩
    exact ⟨x, hx, y, hy, z, hz, h⟩

/-- A fault comes from the first value that is not accepted. -/
theorem read_three_fault_iff {fault : Fault → ε} {u v w : Value} {use : α → α → α → Except ε β}
    (haccepted : ∀ v, (∃ x, read v = .ok x) ↔ accepted v)
    (hfault : ∀ v, (∃ f, read v = .error (fault f)) ↔ v.IsTooLarge)
    (huse : ∀ x y z f, use x y z ≠ .error (fault f)) :
    (∃ f, (read u >>= fun x => read v >>= fun y => read w >>= fun z => use x y z)
      = .error (fault f)) ↔ OverflowsIn accepted u v w := by
  unfold OverflowsIn
  simp only [← haccepted, ← hfault, bind_eq_error]
  constructor
  · rintro ⟨f, h | ⟨x, hx, h | ⟨y, hy, h | ⟨z, _, h⟩⟩⟩⟩
    · exact .inl ⟨f, h⟩
    · exact .inr ⟨⟨x, hx⟩, .inl ⟨f, h⟩⟩
    · exact .inr ⟨⟨x, hx⟩, .inr ⟨⟨y, hy⟩, f, h⟩⟩
    · exact absurd h (huse x _ z f)
  · rintro (⟨f, h⟩ | ⟨⟨x, hx⟩, ⟨f, h⟩ | ⟨⟨y, hy⟩, f, h⟩⟩)
    · exact ⟨f, .inl h⟩
    · exact ⟨f, .inr ⟨x, hx, .inl h⟩⟩
    · exact ⟨f, .inr ⟨x, hx, .inr ⟨y, hy, .inl h⟩⟩⟩

end

end AlgebraDesk.Value
